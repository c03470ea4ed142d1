import ContentQuery.Database.Import
import ContentQuery.Proofs.JsonReading

/-!
# ContentQuery.Proofs.ColumnText

The texts of columns: a column keeps a text as it is, and a text can be looked for in one, exactly
if it has a form in octets.
-/

namespace ContentQuery

/-! ## Texts with octets -/

/-- No character of a string is half of a pair. -/
theorem CodePoint.isSurrogate_ofChar (c : Char) : (ofChar c).isSurrogate = false := by
  have hvalid : c.toNat < 0xD800 ∨ (0xDFFF < c.toNat ∧ c.toNat < 0x110000) := c.valid
  have hval : (ofChar c).val = c.toNat := rfl
  rw [isSurrogate, hval, Bool.and_eq_false_iff, decide_eq_false_iff_not, decide_eq_false_iff_not]
  omega

namespace Text

variable {s t : Text}

/-- Every string has octets. -/
theorem isWellFormed_ofString (s : String) : (ofString s).IsWellFormed := by
  intro c hc
  obtain ⟨char, -, rfl⟩ := List.mem_map.mp hc
  exact CodePoint.isSurrogate_ofChar char

theorem IsWellFormed.append (hs : s.IsWellFormed) (ht : t.IsWellFormed) : (s ++ t).IsWellFormed :=
  List.forall_mem_append.mpr ⟨hs, ht⟩

/-- The code points of a text that has octets can be picked in any order. -/
theorem IsWellFormed.subset (hs : s.IsWellFormed) (h : t ⊆ s) : t.IsWellFormed :=
  fun c hc => hs c (h hc)

theorem isWellFormed_zeros (n : Nat) : IsWellFormed (List.replicate n ('0' : CodePoint)) := by
  intro c hc
  rw [List.eq_of_mem_replicate hc]
  exact CodePoint.isSurrogate_ofChar '0'

theorem isWellFormed_of_digits (h : ∀ c ∈ s, c.isDigit = true) : s.IsWellFormed :=
  fun c hc => CodePoint.isSurrogate_of_isDigit (h c hc)

theorem isWellFormed_ofNat (n : Nat) : (ofNat n).IsWellFormed :=
  isWellFormed_of_digits fun _ => isDigit_of_mem_ofNat

/-- The numeral of an integer has octets. -/
theorem isWellFormed_ofInt (n : Int) : (ofInt n).IsWellFormed := by
  cases n with
  | ofNat n => exact isWellFormed_ofNat n
  | negSucc n => exact (isWellFormed_ofString "-").append (isWellFormed_ofNat (n + 1))

/-- Halves of a pair do not meet in a text that has none. -/
theorem IsWellFormed.isJoined (hs : s.IsWellFormed) : Json.IsJoined s := by
  apply List.Pairwise.isChain
  apply List.pairwise_of_forall_mem_list
  intro high hhigh low _ hboth
  have hplain := hs high hhigh
  rw [CodePoint.isSurrogate_of_isHighSurrogate hboth.1] at hplain
  contradiction

end Text

/-- Halves of a pair do not meet in a string. -/
theorem Json.isJoined_ofString (s : String) : IsJoined (Text.ofString s) :=
  (Text.isWellFormed_ofString s).isJoined

/-! ## Columns -/

namespace Database

variable {s column : Text}

/-- A text has octets exactly if it has no half of a pair. -/
theorem hasOctets_eq_true_iff : hasOctets s = true ↔ s.IsWellFormed := by
  simp only [hasOctets, Text.IsWellFormed, Bool.not_eq_true', List.any_eq_false,
    Bool.not_eq_true]

/-- A text that has octets can be looked for. -/
theorem lookFor_of_isWellFormed {α : Type} (h : s.IsWellFormed) (found : Except FetchError α) :
    lookFor s found = found :=
  if_pos (hasOctets_eq_true_iff.mpr h)

/-- A text that has no octets cannot be looked for, whatever there is. -/
theorem lookFor_of_not_isWellFormed {α : Type} (h : ¬ s.IsWellFormed)
    (found : Except FetchError α) : lookFor s found = .error .surrogate :=
  if_neg fun hoctets => h (hasOctets_eq_true_iff.mp hoctets)

/-- A column keeps a text as it is, if it has octets. -/
theorem columnText_eq_ok_iff : columnText s = .ok column ↔ column = s ∧ s.IsWellFormed := by
  rw [columnText, ← hasOctets_eq_true_iff]
  split
  · next h => simp [h, eq_comm]
  · next h => simp [h]

theorem columnText_eq_ok (h : s.IsWellFormed) : columnText s = .ok s :=
  columnText_eq_ok_iff.mpr ⟨rfl, h⟩

end Database

end ContentQuery
