import ContentQuery.Proofs.Lexemes
import ContentQuery.Proofs.WrittenCondition

/-!
# ContentQuery.Proofs.ConnectiveWord

The words for connectives. In whatever letter case such a word is written, its characters are
letters of ASCII, so it is a word of the line and takes part in no gap and in no string.
-/

namespace ContentQuery

/-! ## Letters and their lower-case forms -/

namespace Case

/-- A code point with another form in a table is in a run of it, and the form is as far into the
images. -/
theorem exists_run_of_image? {runs : List Run} {n m : Nat} (h : image? runs n = some m) :
    ∃ run ∈ runs, run.first ≤ n ∧ n ≤ run.last ∧ m = run.image + (n - run.first) := by
  induction runs with
  | nil => contradiction
  | cons run runs ih =>
      rw [image?] at h
      split at h
      · next hlast =>
          split at h
          · next hfirst =>
              exact ⟨run, List.mem_cons_self, hfirst.1, hlast, (Option.some.inj h).symm⟩
          · contradiction
      · obtain ⟨other, hother, hspan⟩ := ih h
        exact ⟨other, List.mem_cons_of_mem _ hother, hspan⟩

/-- The forms of code points outside ASCII are outside ASCII, but for the small k. -/
theorem image_of_mem_lowerRuns : ∀ run ∈ lowerRuns, 0x80 ≤ run.last →
    0x80 ≤ run.image ∨ run.first = run.last ∧ run.image = 0x6B := by
  decide +kernel

/-- The Kelvin sign is the only code point outside ASCII with a lower-case form inside: a small
k. -/
theorem image?_lowerRuns {n m : Nat} (hn : 0x80 ≤ n) (h : image? lowerRuns n = some m) :
    0x80 ≤ m ∨ m = 0x6B := by
  obtain ⟨run, hrun, hfirst, hlast, rfl⟩ := exists_run_of_image? h
  rcases image_of_mem_lowerRuns run hrun (hn.trans hlast) with himage | ⟨hsingle, himage⟩
  · omega
  · omega

/-- A letter of ASCII other than the small k. -/
def IsCommonLetter (c : CodePoint) : Prop := c.isLetter = true ∧ c.val ≠ 0x6B

/-- The letters are those of ASCII, small and capital. -/
theorem isLetter_iff {c : CodePoint} :
    c.isLetter = true ↔ (0x61 ≤ c.val ∧ c.val ≤ 0x7A) ∨ (0x41 ≤ c.val ∧ c.val ≤ 0x5A) := by
  rw [CodePoint.isLetter, Bool.or_eq_true, Bool.and_eq_true, Bool.and_eq_true, decide_eq_true_eq,
    decide_eq_true_eq, decide_eq_true_eq, decide_eq_true_eq]
  rfl

/-- Neither a code point outside ASCII nor the small k is one of the letters of the connectives. -/
theorem not_isCommonLetter_ofNat {n : Nat} (h : 0x80 ≤ n ∨ n = 0x6B) :
    ¬ IsCommonLetter (.ofNat n) := by
  rintro ⟨hletter, hk⟩
  rw [isLetter_iff] at hletter
  unfold CodePoint.ofNat at hletter hk
  split at hletter
  · next hn =>
      rw [dif_pos hn] at hk
      simp only at hletter hk
      omega
  · simp only at hletter
    omega

/-- Only a letter has a lower-case form that consists of letters. -/
theorem isLetter_of_lowerOne {c : CodePoint} (h : ∀ d ∈ lowerOne c, IsCommonLetter d) :
    c.isLetter = true := by
  unfold lowerOne at h
  split at h
  · split at h
    · next hupper => exact isLetter_iff.mpr (.inr hupper)
    · exact (h c (List.mem_singleton_self c)).1
  · next hascii =>
      split at h
      · exact absurd (h (.ofNat 0x307) (by simp)) (not_isCommonLetter_ofNat (by decide))
      · split at h
        · next n himage =>
            exact absurd (h (.ofNat n) (List.mem_singleton_self _))
              (not_isCommonLetter_ofNat (image?_lowerRuns (Nat.not_lt.mp hascii) himage))
        · exact (h c (List.mem_singleton_self c)).1

/-- If lower-casing gives only letters of the connectives, there were only letters before. -/
theorem isLetter_of_lowerFrom {s : Text} {before : Bool}
    (h : ∀ d ∈ lowerFrom before s, IsCommonLetter d) : ∀ c ∈ s, c.isLetter = true := by
  induction s generalizing before with
  | nil => exact List.forall_mem_nil _
  | cons c rest ih =>
      rw [lowerFrom] at h
      split at h
      · have hsigma := h _ List.mem_cons_self
        refine absurd hsigma (not_isCommonLetter_ofNat (.inl ?_))
        split <;> decide
      · rw [List.forall_mem_append] at h
        exact List.forall_mem_cons.mpr ⟨isLetter_of_lowerOne h.1, ih h.2⟩

end Case

/-! ## Words for connectives -/

namespace Connective

/-- A text is a connective exactly if its lower-case form is the word for it. -/
theorem ofWord?_eq_some_iff {s : Text} {connective : Connective} :
    ofWord? s = some connective ↔ s.lower = connective.word := by
  have hne : (and.word : Text) ≠ or.word := by decide
  by_cases hand : s.lower = and.word
  · have hread : ofWord? s = some and := if_pos hand
    cases connective <;> simp [hread, hand, hne]
  · by_cases hor : s.lower = or.word
    · have hread : ofWord? s = some or := (if_neg hand).trans (if_pos hor)
      cases connective <;> simp [hread, hor, hne.symm]
    · have hread : ofWord? s = none := (if_neg hand).trans (if_neg hor)
      cases connective <;> simp [hread, hand, hor]

/-- A text is no connective exactly if its lower-case form is none of the words. -/
theorem ofWord?_eq_none_iff {s : Text} :
    ofWord? s = none ↔ ∀ connective : Connective, s.lower ≠ connective.word := by
  simp only [Option.eq_none_iff_forall_ne_some, ne_eq, ofWord?_eq_some_iff]

/-- The word for a connective is this connective. -/
theorem ofWord?_word (connective : Connective) : ofWord? connective.word = some connective := by
  rw [ofWord?_eq_some_iff]
  cases connective <;> rfl

/-- The words for connectives have no k. -/
theorem isCommonLetter_of_mem_word (connective : Connective) :
    ∀ c ∈ connective.word, Case.IsCommonLetter c := by
  have hall : (connective.word.all fun c => c.isLetter && c.val ≠ 0x6B) = true := by
    cases connective <;> rfl
  simpa [List.all_eq_true, Case.IsCommonLetter] using hall

/-- A word for a connective consists of letters. -/
theorem isLetter_of_lower_eq_word {s : Text} {connective : Connective}
    (h : s.lower = connective.word) : ∀ c ∈ s, c.isLetter = true := by
  have hletters : ∀ d ∈ Case.lowerFrom false s, Case.IsCommonLetter d := by
    rw [← Text.lower, h]
    exact connective.isCommonLetter_of_mem_word
  exact Case.isLetter_of_lowerFrom hletters

theorem ne_nil_of_lower_eq_word {s : Text} {connective : Connective}
    (h : s.lower = connective.word) : s ≠ [] := by
  rintro rfl
  cases connective <;> exact absurd h (by decide)

end Connective

namespace Expression

/-- Letters belong to words. -/
theorem isWordPart_of_isLetter {c : CodePoint} (h : c.isLetter = true) : isWordPart c = true := by
  rw [Case.isLetter_iff] at h
  exact isWordPart_of_val (by omega) (by omega) (by omega)

/-- A word for a connective is a word of the line. -/
theorem isWordPart_of_lower_eq_word {s : Text} {connective : Connective}
    (h : s.lower = connective.word) : ∀ c ∈ s, isWordPart c = true := fun c hc =>
  isWordPart_of_isLetter (Connective.isLetter_of_lower_eq_word h c hc)

/-- A text with another character than those of words is no word for a connective. -/
theorem ofWord?_eq_none_of_mem {s : Text} {c : CodePoint} (hc : c ∈ s)
    (hpart : isWordPart c = false) : Connective.ofWord? s = none := by
  rw [Connective.ofWord?_eq_none_iff]
  intro connective h
  rw [isWordPart_of_lower_eq_word h c hc] at hpart
  contradiction

/-- A word for a connective is a lexeme and this connective, if no word and no string goes on. -/
theorem endsBefore_connective {gap word after : Text} {connective : Connective} (hgap : IsGap gap)
    (hword : word.lower = connective.word) (hafter : EndsWord after)
    (hquote : after.head? ≠ some quote) :
    Lexeme.EndsBefore ⟨gap, word, some connective⟩ after := by
  have hread : connective? word after = some connective :=
    (if_neg hquote).trans (Connective.ofWord?_eq_some_iff.mpr hword)
  have hends := Lexeme.EndsBefore.word hgap (Connective.ne_nil_of_lower_eq_word hword)
    (isWordPart_of_lower_eq_word hword) hafter
  rwa [hread] at hends

/-! ## Spaces -/

theorem isGap_space : IsGap [Condition.space] := List.forall_mem_singleton.mpr rfl

theorem endsWord_space (rest : Text) : EndsWord (Condition.space :: rest) := by
  rintro c ⟨⟩
  rfl

end Expression

end ContentQuery
