import ContentQuery.Decimal
import Mathlib.Tactic.Positivity
import Mathlib.Tactic.Ring

/-!
# ContentQuery.Proofs.Rounding

Rounding to the binary format: a representable magnitude is taken as it is, and the nearest number
of a fraction, and so that of a decimal, depends on nothing but its value.
-/

namespace ContentQuery

namespace Binary64

/-! ## Powers of two -/

theorem twoPow_pos (n : Nat) : 0 < Nat.pow 2 n := Nat.two_pow_pos n

theorem twoPow_add (m n : Nat) : Nat.pow 2 (m + n) = Nat.pow 2 m * Nat.pow 2 n := Nat.pow_add 2 m n

theorem twoPow_le_twoPow {m n : Nat} (h : m ≤ n) : Nat.pow 2 m ≤ Nat.pow 2 n :=
  Nat.pow_le_pow_right (by decide) h

theorem ne_zero_of_twoPow_le {k n : Nat} (h : Nat.pow 2 k ≤ n) : n ≠ 0 := by
  have hpos := twoPow_pos k
  omega

/-- The exponent stays a variable: nothing is gained by writing the power out. -/
theorem unitsPerOne_eq {u : Nat} (hu : 1074 = u) : unitsPerOne = Nat.pow 2 u := by
  unfold unitsPerOne
  rw [hu]

/-! ## Rounding to an integer -/

/-- A common factor plays no part. -/
theorem roundHalfEven_mul_mul (num den : Nat) {k : Nat} (hk : 0 < k) :
    roundHalfEven (num * k) (den * k) = roundHalfEven num den := by
  have hdiv : num * k / (den * k) = num / den := Nat.mul_div_mul_right num den hk
  have htwice : 2 * (num * k % (den * k)) = 2 * (num % den) * k := by
    rw [Nat.mul_mod_mul_right, Nat.mul_assoc]
  unfold roundHalfEven
  simp only [hdiv, htwice, Nat.mul_lt_mul_right hk]

/-- An integer stays. -/
theorem roundHalfEven_mul_self (n : Nat) {den : Nat} (hden : 0 < den) :
    roundHalfEven (n * den) den = n := by
  unfold roundHalfEven
  rw [Nat.mul_div_cancel n hden, Nat.mul_mod_left, if_pos (by omega)]

/-- What lies below a half becomes zero. -/
theorem roundHalfEven_eq_zero {num den : Nat} (h : 2 * num < den) : roundHalfEven num den = 0 := by
  have hlt : num < den := by omega
  unfold roundHalfEven
  rw [Nat.div_eq_of_lt hlt, Nat.mod_eq_of_lt hlt, if_pos h]

theorem div_le_roundHalfEven (num den : Nat) : num / den ≤ roundHalfEven num den := by
  unfold roundHalfEven
  simp only
  split
  · exact Nat.le_refl _
  · split <;> omega

/-! ## Magnitudes -/

theorem magnitude_of_exponent_pos {exponent : Fin 2047} (fraction : Fin 4503599627370496)
    (h : exponent.val ≠ 0) :
    magnitude exponent fraction = (2 ^ 52 + fraction.val) * 2 ^ (exponent.val - 1) := by
  rw [magnitude, if_neg h]
  rfl

/-- The magnitude of a normal number has as many digits as its exponent says. -/
theorem log2_magnitude {exponent : Fin 2047} (fraction : Fin 4503599627370496)
    (h : exponent.val ≠ 0) : (magnitude exponent fraction).log2 = 52 + (exponent.val - 1) := by
  have hfraction := fraction.isLt
  have hpos : 0 < 2 ^ (exponent.val - 1) := Nat.two_pow_pos _
  rw [magnitude_of_exponent_pos fraction h]
  have hne : (2 ^ 52 + fraction.val) * 2 ^ (exponent.val - 1) ≠ 0 := by positivity
  rw [Nat.log2_eq_iff hne]
  constructor
  · rw [Nat.pow_add]
    exact Nat.mul_le_mul_right _ (by omega)
  · rw [Nat.add_right_comm, Nat.pow_add]
    exact Nat.mul_lt_mul_of_pos_right (by omega) hpos

/-- A magnitude is a multiple of the step that its size allows. -/
theorem exists_magnitude_eq_mul (exponent : Fin 2047) (fraction : Fin 4503599627370496) :
    ∃ n, magnitude exponent fraction = n * 2 ^ ((magnitude exponent fraction).log2 - 52) := by
  by_cases h : exponent.val = 0
  · have hlog : (magnitude exponent fraction).log2 - 52 = 0 := by
      rw [magnitude, if_pos h]
      have hlt : fraction.val < 2 ^ 53 := by omega
      by_cases hzero : fraction.val = 0
      · rw [hzero]; rfl
      · have := (Nat.log2_lt hzero).mpr hlt
        omega
    exact ⟨magnitude exponent fraction, by rw [hlog, Nat.pow_zero, Nat.mul_one]⟩
  · refine ⟨2 ^ 52 + fraction.val, ?_⟩
    rw [log2_magnitude fraction h, Nat.add_sub_cancel_left]
    exact magnitude_of_exponent_pos fraction h

/-- A magnitude gives the number that it belongs to. -/
theorem ofUnits_magnitude (negative : Bool) (exponent : Fin 2047)
    (fraction : Fin 4503599627370496) :
    ofUnits negative (magnitude exponent fraction) = finite negative exponent fraction := by
  have hfraction := fraction.isLt
  by_cases h : exponent.val = 0
  · have hexponent : exponent = ⟨0, by decide⟩ := Fin.ext h
    have hunits : magnitude exponent fraction = fraction.val := by rw [magnitude, if_pos h]
    rw [hunits, ofUnits, if_pos (show fraction.val < Nat.pow 2 52 from hfraction), hexponent]
    simp only [Nat.mod_eq_of_lt hfraction]
  · have hpos : 0 < 2 ^ (exponent.val - 1) := Nat.two_pow_pos _
    have hge : ¬ magnitude exponent fraction < Nat.pow 2 52 := by
      rw [magnitude_of_exponent_pos fraction h, Nat.not_lt]
      calc Nat.pow 2 52 ≤ 2 ^ 52 + fraction.val := Nat.le_add_right _ _
        _ ≤ (2 ^ 52 + fraction.val) * 2 ^ (exponent.val - 1) := Nat.le_mul_of_pos_right _ hpos
    have hshift : (magnitude exponent fraction).log2 - 52 = exponent.val - 1 := by
      rw [log2_magnitude fraction h, Nat.add_sub_cancel_left]
    have hexponent : exponent.val - 1 + 1 = exponent.val := by omega
    have hdiv : magnitude exponent fraction / Nat.pow 2 (exponent.val - 1) =
        4503599627370496 + fraction.val := by
      rw [magnitude_of_exponent_pos fraction h]
      exact Nat.mul_div_cancel _ hpos
    rw [ofUnits, if_neg hge]
    simp only [hshift, hexponent, exponent.isLt, dif_pos, hdiv, Nat.add_mod_left,
      Nat.mod_eq_of_lt hfraction]

theorem ofUnits_zero (negative : Bool) : ofUnits negative 0 = zero negative :=
  ofUnits_magnitude negative ⟨0, by decide⟩ ⟨0, by decide⟩

/-! ## Fractions -/

/-- A common factor of numerator and denominator plays no part. -/
theorem ofRatio_mul_mul (negative : Bool) (num den : Nat) {k : Nat} (hk : 0 < k) :
    ofRatio negative (num * k) (den * k) = ofRatio negative num den := by
  have hscaled : num * k * unitsPerOne = num * unitsPerOne * k := Nat.mul_right_comm _ _ _
  have hdiv : num * unitsPerOne * k / (den * k) = num * unitsPerOne / den :=
    Nat.mul_div_mul_right _ _ hk
  unfold ofRatio
  simp only [hscaled, hdiv, Nat.mul_right_comm den k]
  rw [roundHalfEven_mul_mul _ _ hk]

/-- Fractions of the same value have the same nearest number. -/
theorem ofRatio_congr (negative : Bool) {num den num' den' : Nat} (hden : 0 < den)
    (hden' : 0 < den') (h : num * den' = num' * den) :
    ofRatio negative num den = ofRatio negative num' den' := by
  rw [← ofRatio_mul_mul negative num den hden', ← ofRatio_mul_mul negative num' den' hden, h,
    Nat.mul_comm den']

/-- A fraction whose value is a number of the format gives that number. -/
theorem ofRatio_of_units (negative : Bool) {num den : Nat} (hden : 0 < den) {exponent : Fin 2047}
    {fraction : Fin 4503599627370496}
    (h : num * unitsPerOne = magnitude exponent fraction * den) :
    ofRatio negative num den = finite negative exponent fraction := by
  have hdiv : num * unitsPerOne / den = magnitude exponent fraction := by
    rw [h, Nat.mul_div_cancel _ hden]
  obtain ⟨n, hn⟩ := exists_magnitude_eq_mul exponent fraction
  have hstep : 0 < Nat.pow 2 ((magnitude exponent fraction).log2 - 52) := Nat.two_pow_pos _
  have hscaled : num * unitsPerOne =
      n * (den * Nat.pow 2 ((magnitude exponent fraction).log2 - 52)) := by
    rw [h]
    conv_lhs => rw [hn]
    rw [Nat.mul_assoc, Nat.mul_comm _ den]
    rfl
  unfold ofRatio
  simp only [hdiv]
  rw [hscaled, roundHalfEven_mul_self n (Nat.mul_pos hden hstep)]
  change ofUnits negative (n * 2 ^ ((magnitude exponent fraction).log2 - 52)) = _
  rw [← hn, ofUnits_magnitude]

/-- A fraction below half a unit gives zero. -/
theorem ofRatio_eq_zero (negative : Bool) {num den : Nat} (h : 2 * (num * unitsPerOne) < den) :
    ofRatio negative num den = zero negative := by
  have hdiv : num * unitsPerOne / den = 0 := Nat.div_eq_of_lt (by omega)
  unfold ofRatio
  simp only [hdiv]
  rw [show (0 : Nat).log2 - 52 = 0 from rfl, show Nat.pow 2 0 = 1 from rfl, Nat.mul_one,
    Nat.mul_one, roundHalfEven_eq_zero h, ofUnits_zero]

/-- An integer beyond the range of the format gives an infinity. -/
theorem ofRatio_eq_infinite (negative : Bool) {k n : Nat} (hk : 1024 ≤ k) (h : Nat.pow 2 k ≤ n) :
    ofRatio negative n 1 = infinite negative := by
  obtain ⟨u, hu⟩ : ∃ u, 1074 = u := ⟨_, rfl⟩
  have hscaled : Nat.pow 2 (k + u) ≤ n * unitsPerOne := by
    rw [twoPow_add, unitsPerOne_eq hu]
    exact Nat.mul_le_mul_right _ h
  have hne : n * unitsPerOne ≠ 0 := ne_zero_of_twoPow_le hscaled
  have hlog : k + u ≤ (n * unitsPerOne).log2 := (Nat.le_log2 hne).mpr hscaled
  have hstep : 0 < 2 ^ ((n * unitsPerOne).log2 - 52) := Nat.two_pow_pos _
  -- Rounding keeps at least 53 digits, so the magnitude does not become smaller than it was.
  have hrounded : 2 ^ 52 ≤
      roundHalfEven (n * unitsPerOne) (1 * Nat.pow 2 ((n * unitsPerOne).log2 - 52)) := by
    refine le_trans ?_ (div_le_roundHalfEven _ _)
    rw [Nat.one_mul]
    refine (Nat.le_div_iff_mul_le hstep).mpr ?_
    rw [← Nat.pow_add, show 52 + ((n * unitsPerOne).log2 - 52) = (n * unitsPerOne).log2 by omega]
    exact Nat.log2_self_le hne
  have hlarge : Nat.pow 2 (k + u) ≤ roundHalfEven (n * unitsPerOne)
      (1 * Nat.pow 2 ((n * unitsPerOne).log2 - 52)) * Nat.pow 2 ((n * unitsPerOne).log2 - 52) := by
    refine le_trans ?_ (Nat.mul_le_mul_right _ hrounded)
    change Nat.pow 2 (k + u) ≤ Nat.pow 2 52 * Nat.pow 2 ((n * unitsPerOne).log2 - 52)
    rw [← twoPow_add]
    exact twoPow_le_twoPow (by omega)
  unfold ofRatio
  simp only [Nat.div_one]
  generalize roundHalfEven (n * unitsPerOne) (1 * Nat.pow 2 ((n * unitsPerOne).log2 - 52)) *
    Nat.pow 2 ((n * unitsPerOne).log2 - 52) = units at hlarge ⊢
  have hlarge52 : ¬ units < Nat.pow 2 52 := by
    rw [Nat.not_lt]
    exact le_trans (twoPow_le_twoPow (by omega)) hlarge
  have hunits : units ≠ 0 := ne_zero_of_twoPow_le hlarge
  have hlog' : k + u ≤ units.log2 := (Nat.le_log2 hunits).mpr hlarge
  rw [ofUnits, if_neg hlarge52]
  simp only
  rw [dif_neg (by omega)]

end Binary64

namespace Decimal

/-! ## Decimals -/

theorem twoPow_le_tenPow (n : Nat) : Nat.pow 2 (3 * n) ≤ 10 ^ n := by
  change 2 ^ (3 * n) ≤ 10 ^ n
  rw [Nat.pow_mul]
  exact Nat.pow_le_pow_left (by decide) n

/-- The nearest number of a decimal is that of the fraction that it stands for: where the exponent
alone decides, it decides as rounding does. -/
theorem toBinary64_eq_ofRatio (d : Decimal) :
    d.toBinary64 = .ofRatio d.negative (d.coefficient * 10 ^ d.exponent.toNat)
      (10 ^ (-d.exponent).toNat) := by
  obtain ⟨negative, coefficient, exponent⟩ := d
  rw [toBinary64]
  simp only
  by_cases hzero : coefficient = 0
  · rw [if_pos hzero, hzero, Nat.zero_mul, Binary64.ofRatio_eq_zero]
    rw [Nat.zero_mul]
    exact Nat.pow_pos (by decide)
  rw [if_neg hzero]
  cases exponent with
  | ofNat e =>
      have hden : (-Int.ofNat e).toNat = 0 := by simp
      rw [hden, Nat.pow_zero]
      simp only [Int.ofNat_eq_natCast, Int.toNat_natCast]
      by_cases hlarge : 1024 ≤ 3 * e
      · rw [if_pos hlarge, Binary64.ofRatio_eq_infinite negative hlarge]
        exact le_trans (twoPow_le_tenPow e) (Nat.le_mul_of_pos_left _ (by omega))
      · rw [if_neg hlarge]
        rfl
  | negSucc e =>
      have hnum : (Int.negSucc e).toNat = 0 := rfl
      have hden : (-Int.negSucc e).toNat = e + 1 := by simp
      rw [hnum, hden, Nat.pow_zero, Nat.mul_one]
      simp only
      by_cases hsmall : coefficient.log2 + 1076 < 3 * (e + 1)
      · rw [if_pos hsmall, Binary64.ofRatio_eq_zero]
        obtain ⟨u, hu⟩ : ∃ u, 1074 = u := ⟨_, rfl⟩
        have hcoefficient : coefficient < Nat.pow 2 (coefficient.log2 + 1) := Nat.lt_log2_self
        calc 2 * (coefficient * Binary64.unitsPerOne)
            < 2 * (Nat.pow 2 (coefficient.log2 + 1) * Nat.pow 2 u) := by
              rw [Binary64.unitsPerOne_eq hu]
              have hlt := Nat.mul_lt_mul_of_pos_right hcoefficient (Binary64.twoPow_pos u)
              omega
          _ = Nat.pow 2 (coefficient.log2 + 1 + u + 1) := by
              rw [Nat.mul_comm, ← Binary64.twoPow_add]
              exact (Binary64.twoPow_add _ 1).symm
          _ ≤ Nat.pow 2 (3 * (e + 1)) := Binary64.twoPow_le_twoPow (by omega)
          _ ≤ 10 ^ (e + 1) := twoPow_le_tenPow (e + 1)
      · rw [if_neg hsmall]
        rfl

/-- A decimal with zeros moved from its power of ten to its coefficient has the same nearest
number. -/
theorem toBinary64_shift (negative : Bool) (coefficient zeros : Nat) (exponent : Int) :
    toBinary64 ⟨negative, coefficient * 10 ^ zeros, exponent - zeros⟩ =
      toBinary64 ⟨negative, coefficient, exponent⟩ := by
  rw [toBinary64_eq_ofRatio, toBinary64_eq_ofRatio]
  apply Binary64.ofRatio_congr
  · exact Nat.pow_pos (by decide)
  · exact Nat.pow_pos (by decide)
  · have hexponents : zeros + (exponent - zeros).toNat + (-exponent).toNat =
        exponent.toNat + (-(exponent - zeros)).toNat := by omega
    simp only [Nat.mul_assoc, ← Nat.pow_add]
    rw [hexponents]

/-- A decimal that stands for an integer or a fraction with the magnitude of a number of the format
has that number as its nearest one. -/
theorem toBinary64_of_units (negative : Bool) {exponent : Fin 2047}
    {fraction : Fin 4503599627370496} :
    toBinary64 ⟨negative, Binary64.magnitude exponent fraction * Nat.pow 5 1074, -1074⟩ =
      .finite negative exponent fraction := by
  obtain ⟨u, hu⟩ : ∃ u, 1074 = u := ⟨_, rfl⟩
  have hexponent : (-1074 : Int) = -(u : Int) := by omega
  rw [toBinary64_eq_ofRatio, hu, hexponent]
  have hnum : (-(u : Int)).toNat = 0 := by omega
  have hden : (- -(u : Int)).toNat = u := by omega
  rw [hnum, hden, Nat.pow_zero, Nat.mul_one]
  apply Binary64.ofRatio_of_units negative (Nat.pow_pos (by decide))
  rw [Binary64.unitsPerOne_eq hu, Nat.mul_assoc]
  congr 1
  change 5 ^ u * 2 ^ u = 10 ^ u
  rw [← Nat.mul_pow]

end Decimal

end ContentQuery
