import ContentQuery.Proofs.Comparability

/-!
# ContentQuery.Proofs.LetterCase

Comparing without regard for letter case is comparing lower-case forms. The form of a text is put
together from the forms of its parts, but for the capital sigma, whose form depends on what stands
around it: it is the final one where a word ends. So a literal that is found in a target is still
found without regard for letter case where each of its capital sigmas ends a word in the target
exactly if it does in the literal.
-/

namespace ContentQuery

namespace Case

/-- The one letter whose lower-case form depends on its neighbours. -/
def sigma : CodePoint := 0x3A3

theorem val_eq_sigma_iff {c : CodePoint} : c.val = 0x3A3 ↔ c = sigma := by
  rw [Fin.ext_iff]
  rfl

/-- Whether a cased letter stands before what follows a text, given whether one stands before it. -/
def casedThrough (before : Bool) (s : Text) : Bool := s.foldl casedAfter before

/-- Whether a capital sigma between two texts ends a word. -/
def endsWord (before after : Text) : Bool := casedThrough false before && !precedesCased after

/-- The lower-case form of a part of a text, which `after` follows; `before` says whether a cased
letter stands before it. -/
def lowerPart (before : Bool) (after : Text) : Text → Text
  | [] => []
  | c :: rest =>
    if c = sigma then
      .ofNat (if before && !precedesCased (rest ++ after) then 0x3C2 else 0x3C3)
        :: lowerPart true after rest
    else lowerOne c ++ lowerPart (casedAfter before c) after rest

theorem casedAfter_sigma (before : Bool) : casedAfter before sigma = true := by
  have hignorable : caseIgnorable.has sigma.val = false := by decide
  have hcased : cased.has sigma.val = true := by decide
  rw [casedAfter, hignorable, hcased]
  rfl

/-- The form of a text is the form of a part and that of what follows it. -/
theorem lowerFrom_append (before : Bool) (s after : Text) :
    lowerFrom before (s ++ after) =
      lowerPart before after s ++ lowerFrom (casedThrough before s) after := by
  induction s generalizing before with
  | nil => rfl
  | cons c rest ih =>
      rw [List.cons_append, lowerFrom, lowerPart]
      simp only [val_eq_sigma_iff]
      split
      · next hc =>
          rw [ih, casedThrough, casedThrough, List.foldl_cons, hc, casedAfter_sigma]
          rfl
      · rw [ih, List.append_assoc]
        rfl

theorem lowerPart_nil (before : Bool) (s : Text) : lowerPart before [] s = lowerFrom before s := by
  have h := lowerFrom_append before s []
  rw [List.append_nil] at h
  rw [h, lowerFrom, List.append_nil]

theorem length_lowerPart (before before' : Bool) (after after' s : Text) :
    (lowerPart before after s).length = (lowerPart before' after' s).length := by
  induction s generalizing before before' with
  | nil => rfl
  | cons c rest ih =>
      rw [lowerPart, lowerPart]
      split
      · rw [List.length_cons, List.length_cons, ih]
      · rw [List.length_append, List.length_append, ih]

/-- The places of the capital sigmas in a text. -/
theorem forall_sigma_cons_iff {holds : Text → Text → Prop} {c : CodePoint} {rest : Text} :
    (∀ front back, c :: rest = front ++ sigma :: back → holds front back) ↔
      (c = sigma → holds [] rest) ∧
        ∀ front back, rest = front ++ sigma :: back → holds (c :: front) back := by
  constructor
  · intro h
    refine ⟨?_, ?_⟩
    · rintro rfl
      exact h [] rest rfl
    · rintro front back rfl
      exact h (c :: front) back rfl
  · rintro ⟨hfirst, hrest⟩ front back hsplit
    cases front with
    | nil =>
        obtain ⟨hc, rfl⟩ := List.cons.inj hsplit
        exact hfirst hc
    | cons d front =>
        obtain ⟨rfl, hback⟩ := List.cons.inj hsplit
        exact hrest front back hback

theorem sigmaForm_inj {final final' : Bool} :
    CodePoint.ofNat (if final then 0x3C2 else 0x3C3) =
      CodePoint.ofNat (if final' then 0x3C2 else 0x3C3) ↔ final = final' := by
  cases final <;> cases final' <;> decide

/-- A part of a text has the same form in two surroundings exactly if each of its capital sigmas
ends a word in both of them or in none. -/
theorem lowerPart_eq_iff {before before' : Bool} {after after' s : Text} :
    lowerPart before after s = lowerPart before' after' s ↔
      ∀ front back, s = front ++ sigma :: back →
        (casedThrough before front && !precedesCased (back ++ after)) =
          (casedThrough before' front && !precedesCased (back ++ after')) := by
  induction s generalizing before before' with
  | nil => simp [lowerPart]
  | cons c rest ih =>
      rw [forall_sigma_cons_iff, lowerPart, lowerPart]
      by_cases hc : c = sigma
      · subst hc
        simp only [if_true, List.cons.injEq, sigmaForm_inj, ih, forall_const, casedThrough,
          List.foldl_cons, List.foldl_nil, casedAfter_sigma]
      · rw [if_neg hc, if_neg hc, List.append_cancel_left_eq, ih]
        simp only [hc, false_imp_iff, true_and, casedThrough, List.foldl_cons]

end Case

/-! ## Parts of a text -/

/-- Whether each capital sigma of a part of a text ends a word there, between what stands before the
part and what stands after it, exactly if it does in the part alone. -/
def Text.KeepsSigmas (before part after : Text) : Prop :=
  ∀ front back, part = front ++ Case.sigma :: back →
    Case.endsWord (before ++ front) (back ++ after) = Case.endsWord front back

namespace Text

variable {before part after : Text}

theorem keepsSigmas_iff : KeepsSigmas before part after ↔
    ∀ index < part.length, part[index]? = some Case.sigma →
      Case.endsWord (before ++ part.take index) (part.drop (index + 1) ++ after) =
        Case.endsWord (part.take index) (part.drop (index + 1)) := by
  constructor
  · intro h index hindex hsigma
    apply h
    rw [List.getElem?_eq_getElem hindex, Option.some.injEq] at hsigma
    rw [← hsigma, List.getElem_cons_drop, List.take_append_drop]
  · rintro h front back rfl
    have hplace := h front.length (by simp) (by simp)
    simpa using hplace

instance : Decidable (KeepsSigmas before part after) := decidable_of_iff' _ keepsSigmas_iff

theorem keepsSigmas_of_not_mem (h : Case.sigma ∉ part) : KeepsSigmas before part after := by
  rintro front back rfl
  exact absurd (by simp) h

theorem keepsSigmas_alone : KeepsSigmas [] part [] := by
  intro front back _
  rw [List.nil_append, List.append_nil]

open Case in
theorem lowerPart_eq_lower_iff :
    lowerPart (casedThrough false before) after part = part.lower ↔
      KeepsSigmas before part after := by
  rw [lower, ← lowerPart_nil, lowerPart_eq_iff]
  simp only [KeepsSigmas, endsWord, casedThrough, List.foldl_append, List.append_nil]

open Case in
theorem lower_append (before part after : Text) : (before ++ part ++ after).lower =
    lowerPart false (part ++ after) before ++ lowerPart (casedThrough false before) after part ++
      lowerFrom (casedThrough false (before ++ part)) after := by
  have hthrough : casedThrough false (before ++ part) =
      casedThrough (casedThrough false before) part := List.foldl_append
  rw [lower, List.append_assoc, lowerFrom_append, lowerFrom_append, hthrough, List.append_assoc]

theorem infix_lower (h : KeepsSigmas before part after) :
    part.lower <:+: (before ++ part ++ after).lower := by
  rw [lower_append, lowerPart_eq_lower_iff.mpr h]
  exact List.infix_append _ _ _

/-- A capital sigma has one letter in lower case, whatever surrounds it. -/
theorem length_lower_eq_length_lowerPart (precedes : Bool) (part after : Text) :
    part.lower.length = (Case.lowerPart precedes after part).length := by
  rw [lower, ← Case.lowerPart_nil]
  exact Case.length_lowerPart ..

/-- The form of what a text begins with begins its form exactly if its capital sigmas are kept. -/
theorem prefix_lower_iff : part.lower <+: (part ++ after).lower ↔ KeepsSigmas [] part after := by
  rw [← lowerPart_eq_lower_iff]
  have hform := lower_append [] part after
  rw [List.nil_append, Case.lowerPart, List.nil_append] at hform
  rw [hform]
  constructor
  · intro h
    have hlength := length_lower_eq_length_lowerPart false part after
    have hwithin := List.prefix_of_prefix_length_le h (List.prefix_append _ _)
      (Nat.le_of_eq hlength)
    exact (hwithin.eq_of_length hlength).symm
  · intro h
    rw [← h]
    exact List.prefix_append _ _

/-- The form of what a text ends with ends its form exactly if its capital sigmas are kept. -/
theorem suffix_lower_iff : part.lower <:+ (before ++ part).lower ↔ KeepsSigmas before part [] := by
  rw [← lowerPart_eq_lower_iff]
  have hform := lower_append before part []
  rw [List.append_nil, Case.lowerFrom, List.append_nil] at hform
  rw [hform]
  constructor
  · intro h
    have hlength := length_lower_eq_length_lowerPart (Case.casedThrough false before) part []
    have hwithin := List.suffix_of_suffix_length_le h (List.suffix_append _ _)
      (Nat.le_of_eq hlength)
    exact (hwithin.eq_of_length hlength).symm
  · intro h
    rw [← h]
    exact List.suffix_append _ _

end Text

/-! ## Conditions on strings -/

/-- What an operator on strings lets stand before and after the value in a target for which it
holds. -/
def Operator.Allows (op : Operator) (before after : Text) : Prop :=
  match op with
  | .equals => before = [] ∧ after = []
  | .startsWith => before = []
  | .endsWith => after = []
  | .contains => True
  | _ => False

/-- An operator but "not equals" is true of two strings exactly if the value stands in the target
where the operator lets it. -/
theorem Operator.testStrings_eq_true_iff {op : Operator} (hop : op ≠ .notEquals)
    {target value : Text} :
    op.testStrings target value = true ↔
      ∃ before after, op.Allows before after ∧ target = before ++ value ++ after := by
  cases op with
  | notEquals => contradiction
  | equals =>
      constructor
      · intro h
        exact ⟨[], [], ⟨rfl, rfl⟩, by simpa [testStrings] using h⟩
      · rintro ⟨_, _, ⟨rfl, rfl⟩, rfl⟩
        simp [testStrings]
  | contains =>
      rw [testStrings, Text.occursIn_iff]
      constructor
      · rintro ⟨before, after, rfl⟩
        exact ⟨before, after, trivial, rfl⟩
      · rintro ⟨before, after, -, rfl⟩
        exact ⟨before, after, rfl⟩
  | startsWith =>
      rw [testStrings, List.isPrefixOf_iff_prefix]
      constructor
      · rintro ⟨after, rfl⟩
        exact ⟨[], after, rfl, rfl⟩
      · rintro ⟨_, after, rfl, rfl⟩
        exact ⟨after, rfl⟩
  | endsWith =>
      rw [testStrings, List.isSuffixOf_iff_suffix]
      constructor
      · rintro ⟨before, rfl⟩
        exact ⟨before, [], rfl, (List.append_nil _).symm⟩
      · rintro ⟨before, _, rfl, rfl⟩
        exact ⟨before, (List.append_nil _).symm⟩
  | _ => simp [testStrings, Allows]

/-- A value that keeps its capital sigmas is found in lower case where it stands. -/
theorem Operator.testStrings_lower {op : Operator} {before value after : Text}
    (hplace : op.Allows before after) (hkeeps : Text.KeepsSigmas before value after) :
    op.testStrings (before ++ value ++ after).lower value.lower = true := by
  cases op with
  | equals =>
      obtain ⟨rfl, rfl⟩ := hplace
      simp [testStrings]
  | contains =>
      rw [testStrings, Text.occursIn_iff]
      exact Text.infix_lower hkeeps
  | startsWith =>
      obtain rfl : before = [] := hplace
      rw [testStrings, List.isPrefixOf_iff_prefix]
      exact Text.prefix_lower_iff.mpr hkeeps
  | endsWith =>
      obtain rfl : after = [] := hplace
      rw [testStrings, List.isSuffixOf_iff_suffix, List.append_nil]
      exact Text.suffix_lower_iff.mpr hkeeps
  | _ => contradiction

/-- At the beginning, at the end and as a whole it is found only if it keeps them; "contains" may
find it elsewhere. -/
theorem Operator.keepsSigmas_of_testStrings_lower {op : Operator} (hop : op ≠ .contains)
    {before value after : Text} (hplace : op.Allows before after)
    (h : op.testStrings (before ++ value ++ after).lower value.lower = true) :
    Text.KeepsSigmas before value after := by
  cases op with
  | equals =>
      obtain ⟨rfl, rfl⟩ := hplace
      exact Text.keepsSigmas_alone
  | contains => contradiction
  | startsWith =>
      obtain rfl : before = [] := hplace
      rw [testStrings, List.isPrefixOf_iff_prefix] at h
      exact Text.prefix_lower_iff.mp h
  | endsWith =>
      obtain rfl : after = [] := hplace
      rw [testStrings, List.isSuffixOf_iff_suffix, List.append_nil] at h
      exact Text.suffix_lower_iff.mp h
  | _ => contradiction

/-- The string that conditions with a path compare: plain text, whatever the path, or the string
that the path leads to. -/
inductive Content.HasString (path : Text) : Content → Text → Prop
  | plain (s : Text) : HasString path (.plain s) s
  | json {root : Json} {s : Text} : Path.resolve? root path = .ok (some (.string s)) →
      HasString path (.json root) s

/-- A string is compared with a string as the operation sees both. -/
theorem Condition.evaluate_of_hasString {cond : Condition} {content : Content} {s value : Text}
    (h : content.HasString cond.path s) (hliteral : cond.literal = .string value)
    (hop : cond.operation.operator.onStrings = true) :
    cond.evaluate content = .ok (cond.operation.operator.testStrings (cond.operation.seen s)
      (cond.operation.seen value)) := by
  have htext (kind : Text) := Comparison.withText_string hliteral kind s
  cases h with
  | plain s =>
      have hplain : Comparison.withPlainText cond s = Comparison.withText cond "plain text" s :=
        if_pos hop
      rw [evaluate, hplain, htext]
      rfl
  | json hfound =>
      have hstring : Comparison.withType cond (.string s) = Comparison.withText cond "string" s :=
        if_pos hop
      rw [evaluate_of_found hfound, Comparison.withValue_eq cond (by simp [hop])
        (by simp [Json.type]), if_neg (by simp [hliteral]), hstring, htext]
      rfl

/-- Where a condition on a string holds, because the literal stands in it at a place that the
operator allows, the condition without regard for letter case holds as well if each capital sigma
of the literal ends a word at this place exactly if it does in the literal; and it holds only then,
but for "contains", which may find the literal at another place. So it holds if the literal has no
capital sigma, and if it is the whole string. -/
theorem Condition.evaluate_insensitive {content : Content} {path target : Text}
    (h : content.HasString path target) {op : Operator} (hop : op.onStrings = true)
    (hne : op ≠ .notEquals) (value source source' : Text) :
    let sensitive := Condition.evaluate ⟨path, ⟨op, false⟩, .string value, source⟩ content
    let insensitive := Condition.evaluate ⟨path, ⟨op, true⟩, .string value, source'⟩ content
    (sensitive = .ok true ↔
      ∃ before after, op.Allows before after ∧ target = before ++ value ++ after) ∧
    (∀ before after, op.Allows before after → target = before ++ value ++ after →
      (Text.KeepsSigmas before value after → insensitive = .ok true) ∧
      (op ≠ .contains → insensitive = .ok true → Text.KeepsSigmas before value after)) ∧
    (op = .equals ∨ Case.sigma ∉ value → sensitive = .ok true → insensitive = .ok true) := by
  intro sensitive insensitive
  have hsensitive : sensitive = .ok (op.testStrings target value) :=
    Condition.evaluate_of_hasString h rfl hop
  have hinsensitive : insensitive = .ok (op.testStrings target.lower value.lower) :=
    Condition.evaluate_of_hasString h rfl hop
  have hfound : sensitive = .ok true ↔
      ∃ before after, op.Allows before after ∧ target = before ++ value ++ after := by
    rw [hsensitive, Except.ok.injEq, Operator.testStrings_eq_true_iff hne]
  have hkept {before after : Text} (hplace : op.Allows before after)
      (htarget : target = before ++ value ++ after) (hkeeps : Text.KeepsSigmas before value after) :
      insensitive = .ok true := by
    rw [hinsensitive, htarget, Operator.testStrings_lower hplace hkeeps]
  refine ⟨hfound, fun before after hplace htarget => ⟨hkept hplace htarget, ?_⟩, ?_⟩
  · intro hcontains htrue
    rw [hinsensitive, htarget, Except.ok.injEq] at htrue
    exact Operator.keepsSigmas_of_testStrings_lower hcontains hplace htrue
  · intro hvalue htrue
    obtain ⟨before, after, hplace, htarget⟩ := hfound.mp htrue
    refine hkept hplace htarget ?_
    rcases hvalue with rfl | hsigma
    · obtain ⟨rfl, rfl⟩ := hplace
      exact Text.keepsSigmas_alone
    · exact Text.keepsSigmas_of_not_mem hsigma

namespace LetterCase

/-- Whether a text, as the whole content, begins with, contains or ends with a literal. -/
def finds (op : Operator) (insensitive : Bool) (target value : Text) :
    Except EvaluationError Bool :=
  Condition.evaluate ⟨[], ⟨op, insensitive⟩, .string value, []⟩ (.plain target)

/-- In a text that begins with the literal as a word of its own, the literal is found in lower
case. -/
theorem evaluate_insensitive_of_word :
    Text.KeepsSigmas [] "ΟΔΟΣ" " ΟΔΟΣ" ∧ finds .contains true "ΟΔΟΣ ΟΔΟΣ" "ΟΔΟΣ" = .ok true := by
  have hkeeps : Text.KeepsSigmas [] "ΟΔΟΣ" " ΟΔΟΣ" := by decide +kernel
  obtain ⟨-, hfound, -⟩ := Condition.evaluate_insensitive (.plain "ΟΔΟΣ ΟΔΟΣ")
    (rfl : Operator.contains.onStrings = true) nofun "ΟΔΟΣ" [] []
  exact ⟨hkeeps, (hfound [] " ΟΔΟΣ" trivial rfl).1 hkeeps⟩

theorem finds_eq {op : Operator} (hop : op.onStrings = true) (insensitive : Bool)
    (target value : Text) :
    finds op insensitive target value =
      .ok (if insensitive then op.testStrings target.lower value.lower
        else op.testStrings target value) := by
  cases insensitive <;> exact Condition.evaluate_of_hasString (.plain target) rfl hop

/-- A literal need not be found in lower case where it is found as it stands, neither at the
beginning or in the middle of a word that it ends as a word of its own, nor at the end of a word
that it is no end of. -/
theorem exists_found_only_with_case :
    (finds .startsWith false "ΟΔΟΣΗΜΑ" "ΟΔΟΣ" = .ok true ∧
      finds .startsWith true "ΟΔΟΣΗΜΑ" "ΟΔΟΣ" = .ok false) ∧
    (finds .contains false "ΟΔΟΣΗΜΑ" "ΟΔΟΣ" = .ok true ∧
      finds .contains true "ΟΔΟΣΗΜΑ" "ΟΔΟΣ" = .ok false) ∧
    finds .endsWith false "ΟΔΟΣ" "Σ" = .ok true ∧ finds .endsWith true "ΟΔΟΣ" "Σ" = .ok false := by
  simp (disch := decide) only [finds_eq, Except.ok.injEq]
  decide +kernel

end LetterCase

end ContentQuery
