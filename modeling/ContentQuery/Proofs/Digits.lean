import ContentQuery.Proofs.Runs
import Mathlib.Data.List.Induction
import Mathlib.Tactic.Ring

/-!
# ContentQuery.Proofs.Digits

The digits of natural numbers: what they denote, how many there are, and where a run of them ends.
-/

namespace ContentQuery

namespace CodePoint

/-- The digits are the ten code points from that of zero on. -/
theorem isDigit_iff {c : CodePoint} : c.isDigit = true ↔ 48 ≤ c.val ∧ c.val ≤ 57 := by
  rw [isDigit, Bool.and_eq_true, decide_eq_true_eq, decide_eq_true_eq]
  rfl

theorem isDigit_ofChar {c : Char} (h : c.isDigit = true) : (ofChar c).isDigit = true := by
  rw [isDigit_iff]
  have hbounds : 48 ≤ c.toNat ∧ c.toNat ≤ 57 := by
    simpa [Char.isDigit, UInt32.le_iff_toNat_le] using h
  exact hbounds

/-- A digit is no white space. -/
theorem isInk_of_isDigit {c : CodePoint} (h : c.isDigit = true) : c.isInk = true := by
  rw [isDigit_iff] at h
  simp only [isInk, isBlank, Bool.not_eq_true', Bool.or_eq_false_iff, Bool.and_eq_false_iff,
    decide_eq_false_iff_not]
  omega

/-- A digit is no half of a character. -/
theorem isSurrogate_of_isDigit {c : CodePoint} (h : c.isDigit = true) : c.isSurrogate = false := by
  rw [isDigit_iff] at h
  simp only [isSurrogate, Bool.and_eq_false_iff, decide_eq_false_iff_not]
  omega

end CodePoint

namespace Text

/-! ## Values -/

/-- The value of two runs of digits: that of the first one is moved by the digits of the second. -/
theorem digitsValue_append (a b : Text) :
    digitsValue (a ++ b) = digitsValue a * 10 ^ b.length + digitsValue b := by
  induction b using List.reverseRecOn with
  | nil => simp [digitsValue]
  | append_singleton b d ih =>
      have hlast (s : Text) : digitsValue (s ++ [d]) = 10 * digitsValue s + d.digit := by
        simp [digitsValue]
      rw [← List.append_assoc, hlast, ih, hlast, List.length_append, List.length_singleton,
        Nat.pow_succ]
      ring

/-- Zeros denote zero, however many there are. -/
theorem digitsValue_zeros (n : Nat) : digitsValue (List.replicate n ('0' : CodePoint)) = 0 := by
  induction n with
  | zero => rfl
  | succ n ih =>
      rw [List.replicate_succ', digitsValue_append, ih]
      rfl

/-- A run of digits denotes less than the power of ten with as many zeros. -/
theorem digitsValue_lt {s : Text} (h : ∀ c ∈ s, c.isDigit = true) :
    digitsValue s < 10 ^ s.length := by
  induction s using List.reverseRecOn with
  | nil => decide
  | append_singleton s d ih =>
      have hinit := ih fun c hc => h c (List.mem_append_left _ hc)
      have hlast := CodePoint.isDigit_iff.mp (h d (by simp))
      have hdigit : digitsValue [d] < 10 := by
        simp only [digitsValue, List.foldl_cons, List.foldl_nil, CodePoint.digit]
        omega
      rw [digitsValue_append, List.length_append, List.length_singleton, Nat.pow_one, Nat.pow_succ]
      omega

/-! ## Digits of a number -/

/-- A number is written in digits. -/
theorem isDigit_of_mem_ofNat {n : Nat} {c : CodePoint} (h : c ∈ ofNat n) : c.isDigit = true := by
  obtain ⟨d, hd, rfl⟩ := List.mem_map.mp h
  exact CodePoint.isDigit_ofChar (Nat.isDigit_of_mem_toDigits (by decide) (by decide) hd)

/-- A number has a digit at least. -/
theorem ofNat_ne_nil (n : Nat) : ofNat n ≠ [] := by
  rw [ofNat, ne_eq, List.map_eq_nil_iff]
  exact Nat.toDigits_ne_nil

/-- A number has at most so many digits exactly if it is below the power of ten with as many
zeros. -/
theorem length_ofNat_le_iff {n k : Nat} (hk : 0 < k) : (ofNat n).length ≤ k ↔ n < 10 ^ k := by
  rw [ofNat, List.length_map]
  exact Nat.length_toDigits_le_iff (by decide) hk

/-- The digits of a number denote it. -/
theorem digitsValue_ofNat (n : Nat) : digitsValue (ofNat n) = n := by
  rw [ofNat, digitsValue, List.foldl_map]
  exact Nat.ofDigitChars_ten_toDigits

/-- The first digit of a positive number is not zero. -/
theorem head?_ofNat_ne_zero {n : Nat} (hn : n ≠ 0) : (ofNat n).head? ≠ some ('0' : CodePoint) := by
  intro hhead
  obtain ⟨rest, hrest⟩ : ∃ rest, ofNat n = ('0' : CodePoint) :: rest := by
    cases hdigits : ofNat n with
    | nil => exact absurd hdigits (ofNat_ne_nil n)
    | cons c rest =>
        rw [hdigits, List.head?_cons, Option.some.injEq] at hhead
        exact ⟨rest, by rw [hhead]⟩
  have hvalue : digitsValue rest = n := by
    have happend := digitsValue_append [('0' : CodePoint)] rest
    rw [List.singleton_append, ← hrest, digitsValue_ofNat] at happend
    rw [happend, show digitsValue [('0' : CodePoint)] = 0 from rfl, Nat.zero_mul, Nat.zero_add]
  have hlt : n < 10 ^ rest.length := by
    rw [← hvalue]
    exact digitsValue_lt fun c hc =>
      isDigit_of_mem_ofNat (by rw [hrest]; exact List.mem_cons_of_mem _ hc)
  -- Without the zero the digits would be too few for the number.
  have hpos : 0 < rest.length := by
    rw [List.length_pos_iff]
    rintro rfl
    exact hn hvalue.symm
  have hlength := (length_ofNat_le_iff hpos).mpr hlt
  rw [hrest, List.length_cons] at hlength
  omega

/-- A number that has been filled up with zeros consists of digits. -/
theorem isDigit_of_mem_ofNatPadded {width n : Nat} {c : CodePoint} (h : c ∈ ofNatPadded width n) :
    c.isDigit = true := by
  rcases List.mem_append.mp h with hzero | hdigit
  · rw [List.eq_of_mem_replicate hzero]
    rfl
  · exact isDigit_of_mem_ofNat hdigit

/-- Filling a number up with zeros does not change what it denotes. -/
theorem digitsValue_ofNatPadded (width n : Nat) : digitsValue (ofNatPadded width n) = n := by
  rw [ofNatPadded, padLeft, digitsValue_append, digitsValue_zeros, digitsValue_ofNat, Nat.zero_mul,
    Nat.zero_add]

theorem ofNatPadded_ne_nil (width n : Nat) : ofNatPadded width n ≠ [] := by
  rw [ofNatPadded, padLeft, ne_eq, List.append_eq_nil_iff, not_and]
  exact fun _ => ofNat_ne_nil n

/-- A number that fits has exactly the width to which it is filled up. -/
theorem length_ofNatPadded {width n : Nat} (hwidth : 0 < width) (hn : n < 10 ^ width) :
    (ofNatPadded width n).length = width := by
  rw [ofNatPadded, padLeft, List.length_append, List.length_replicate]
  exact Nat.sub_add_cancel ((length_ofNat_le_iff hwidth).mpr hn)

/-! ## The end of a run -/

/-- Whether a text does not go on with a digit. -/
def EndsDigits (s : Text) : Prop := ∀ c ∈ s.head?, c.isDigit = false

/-- The digits before a text that begins with none are the digits at the front of both. -/
theorem takeWhile_isDigit_append {digits rest : Text} (hdigits : ∀ c ∈ digits, c.isDigit = true)
    (hrest : EndsDigits rest) : (digits ++ rest).takeWhile CodePoint.isDigit = digits :=
  takeWhile_append_of_stop hdigits hrest

/-- Behind the digits at the front there is the text that begins with none. -/
theorem dropWhile_isDigit_append {digits rest : Text} (hdigits : ∀ c ∈ digits, c.isDigit = true)
    (hrest : EndsDigits rest) : (digits ++ rest).dropWhile CodePoint.isDigit = rest :=
  dropWhile_append_of_stop hdigits hrest

end Text

end ContentQuery
