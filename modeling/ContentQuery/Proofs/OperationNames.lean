import ContentQuery.Operation
import ContentQuery.Text.Blank
import ContentQuery.Text.Case

/-!
# ContentQuery.Proofs.OperationNames

The names of operations: which words they are, that each is a single word in lower case, and that
they may be written in any letter case.
-/

namespace ContentQuery

/-! ## Letter case -/

/-- A code point of ASCII that is its own lower-case form. -/
def CodePoint.isPlain (c : CodePoint) : Bool := c.val < 0x80 && !(0x41 ≤ c.val && c.val ≤ 0x5A)

/-- A plain code point has no other lower-case form. -/
theorem Case.lowerOne_eq_singleton {c : CodePoint} (h : c.isPlain = true) :
    Case.lowerOne c = [c] := by
  simp only [CodePoint.isPlain, Bool.and_eq_true, decide_eq_true_eq, Bool.not_eq_true',
    Bool.and_eq_false_imp, decide_eq_false_iff_not] at h
  rw [Case.lowerOne, if_pos h.1, if_neg (by rintro ⟨h1, h2⟩; exact h.2 h1 h2)]

theorem Case.ne_sigma_of_isPlain {c : CodePoint} (h : c.isPlain = true) : c.val ≠ 0x3A3 := by
  simp only [CodePoint.isPlain, Bool.and_eq_true, decide_eq_true_eq] at h
  omega

/-- A text of plain code points is in lower case. -/
theorem Case.lowerFrom_eq_self {s : Text} (h : ∀ c ∈ s, c.isPlain = true) (before : Bool) :
    Case.lowerFrom before s = s := by
  induction s generalizing before with
  | nil => rfl
  | cons c rest ih =>
      have hc : c.isPlain = true := h c (by simp)
      rw [Case.lowerFrom, if_neg (Case.ne_sigma_of_isPlain hc), Case.lowerOne_eq_singleton hc,
        ih fun d hd => h d (by simp [hd])]
      rfl

/-- A plain text is its own lower-case form. -/
theorem Text.lower_eq_self {s : Text} (h : ∀ c ∈ s, c.isPlain = true) : s.lower = s :=
  Case.lowerFrom_eq_self h false

/-- A plain code point of a text is in its lower-case form. -/
theorem Case.mem_lowerFrom_of_isPlain {c : CodePoint} (h : c.isPlain = true) {s : Text}
    (hc : c ∈ s) (before : Bool) : c ∈ Case.lowerFrom before s := by
  induction s generalizing before with
  | nil => simp at hc
  | cons d rest ih =>
      rw [Case.lowerFrom]
      rcases List.mem_cons.mp hc with rfl | hrest
      · rw [if_neg (Case.ne_sigma_of_isPlain h), Case.lowerOne_eq_singleton h]
        simp
      · split
        · exact List.mem_cons_of_mem _ (ih hrest _)
        · exact List.mem_append_right _ (ih hrest _)

/-! ## Names of operations -/

namespace Operation

/-- A word that has the mark for letter case is the word without it and the mark. -/
theorem eq_append_of_unmarked? {word base : Text} (h : unmarked? word = some base) :
    word = base ++ insensitiveMark := by
  unfold unmarked? at h
  split at h
  · next hsuffix =>
      obtain ⟨front, hfront⟩ := List.isSuffixOf_iff_suffix.mp hsuffix
      simp only [Option.some.injEq] at h
      rw [← h, ← hfront]
      simp
  · contradiction

/-- A word names an operation only if it is the operation's name. -/
theorem eq_name_of_ofName? {word : Text} {op : Operation} (h : ofName? word = some op) :
    word = op.name := by
  unfold ofName? at h
  split at h
  · next operator hoperator =>
      simp only [Option.some.injEq] at h
      rw [← h]
      exact Operator.eq_name_of_ofName? hoperator
  · split at h
    · next operator hoperator =>
        obtain ⟨base, hbase, hname⟩ := Option.bind_eq_some_iff.mp hoperator
        split at h
        · simp only [Option.some.injEq] at h
          rw [← h, eq_append_of_unmarked? hbase, Operator.eq_name_of_ofName? hname]
          rfl
        · contradiction
    · contradiction

/-- Whether an operation has a name: letter case is ignored by operators on strings only. -/
def IsAllowed (op : Operation) : Prop := op.insensitive = true → op.operator.onStrings = true

instance (op : Operation) : Decidable op.IsAllowed := inferInstanceAs (Decidable (_ → _))

/-- Only allowed operations have names. -/
theorem isAllowed_of_ofName? {word : Text} {op : Operation} (h : ofName? word = some op) :
    op.IsAllowed := by
  unfold ofName? at h
  split at h
  · rw [← Option.some.inj h]
    exact fun hfalse => absurd hfalse Bool.false_ne_true
  · split at h
    · split at h
      · next hstrings =>
          rw [← Option.some.inj h]
          exact fun _ => hstrings
      · contradiction
    · contradiction

/-- An allowed operation is found by its name. -/
theorem ofName?_name {op : Operation} (h : op.IsAllowed) : ofName? op.name = some op := by
  obtain ⟨operator, insensitive⟩ := op
  revert h
  cases operator <;> cases insensitive <;> decide

/-- The words that name operations are the names of those that are allowed. -/
theorem ofName?_eq_some_iff {word : Text} {op : Operation} :
    ofName? word = some op ↔ op.IsAllowed ∧ word = op.name := by
  constructor
  · exact fun h => ⟨isAllowed_of_ofName? h, eq_name_of_ofName? h⟩
  · rintro ⟨hallowed, rfl⟩
    exact ofName?_name hallowed

/-- The names of operations are single words in lower case. -/
theorem isInk_and_isPlain_of_mem_name (op : Operation) :
    ∀ c ∈ op.name, c.isInk = true ∧ c.isPlain = true := by
  have hall : (op.name.all fun c => c.isInk && c.isPlain) = true := by
    obtain ⟨operator, insensitive⟩ := op
    cases operator <;> cases insensitive <;> rfl
  simpa [List.all_eq_true] using hall

theorem lower_name (op : Operation) : op.name.lower = op.name :=
  Text.lower_eq_self fun c hc => (isInk_and_isPlain_of_mem_name op c hc).2

theorem name_ne_nil (op : Operation) : op.name ≠ [] := by
  obtain ⟨operator, insensitive⟩ := op
  cases operator <;> cases insensitive <;> decide

/-- Whether a word names an operation, in any letter case: one of the operators, or one of those on
strings that ignores letter case. -/
def IsNamed (word : Text) : Prop :=
  ∃ operation : Operation, operation.IsAllowed ∧ word.lower = operation.name

/-- A word names an operation exactly if its lower-case form does. -/
theorem isNamed_iff {word : Text} :
    IsNamed word ↔ ∃ operation, ofName? word.lower = some operation := by
  simp only [IsNamed, ofName?_eq_some_iff]

theorem not_isNamed_iff {word : Text} : ¬ IsNamed word ↔ ofName? word.lower = none := by
  rw [isNamed_iff, Option.eq_none_iff_forall_ne_some, not_exists]

end Operation

end ContentQuery
