import ContentQuery.Proofs.Rounding
import Mathlib.Algebra.Order.Field.Rat
import Mathlib.Data.Rat.Cast.Order
import Mathlib.Tactic.FieldSimp
import Mathlib.Tactic.Linarith

/-!
# ContentQuery.Proofs.Nearest

Rounding to the binary format keeps the order of exact values. Every way in which a number comes
about, from a decimal or from an integer, within the range of the format or beyond it, puts it in
the place of the number nearest to the exact value, and this place grows with the value.
-/

namespace ContentQuery

namespace Binary64

/-! ## Rounding to an integer -/

/-- Rounding to an integer adds one at most. -/
theorem roundHalfEven_le (num den : Nat) : roundHalfEven num den ≤ num / den + 1 := by
  unfold roundHalfEven
  simp only
  split
  · omega
  · split <;> omega

/-- Rounding to an integer keeps the order of fractions with one denominator. -/
theorem roundHalfEven_mono {num num' : Nat} (den : Nat) (h : num ≤ num') :
    roundHalfEven num den ≤ roundHalfEven num' den := by
  have hdiv : num / den ≤ num' / den := Nat.div_le_div_right h
  rcases Nat.lt_or_eq_of_le hdiv with hlt | heq
  · calc roundHalfEven num den ≤ num / den + 1 := roundHalfEven_le num den
      _ ≤ num' / den := hlt
      _ ≤ roundHalfEven num' den := div_le_roundHalfEven num' den
  · -- Between two neighbouring integers the remainder decides.
    have hmod : num % den ≤ num' % den := by
      have hnum := Nat.div_add_mod num den
      have hnum' := Nat.div_add_mod num' den
      rw [heq] at hnum
      omega
    unfold roundHalfEven
    simp only [heq]
    split <;> split <;> (try split) <;> (try split) <;> omega

/-- Rounding a fraction to an integer depends on its value only, and grows with it. -/
theorem roundHalfEven_le_roundHalfEven {num den num' den' : Nat} (hden : 0 < den) (hden' : 0 < den')
    (h : num * den' ≤ num' * den) : roundHalfEven num den ≤ roundHalfEven num' den' := by
  rw [← roundHalfEven_mul_mul num den hden', ← roundHalfEven_mul_mul num' den' hden,
    Nat.mul_comm den' den]
  exact roundHalfEven_mono _ h

/-- A bound that is an integer stays one. -/
theorem roundHalfEven_le_of_le {num den n : Nat} (hden : 0 < den) (h : num ≤ n * den) :
    roundHalfEven num den ≤ n := by
  rw [← roundHalfEven_mul_self n hden]
  exact roundHalfEven_mono den h

/-- What is no less than an integer is rounded to no less. -/
theorem le_roundHalfEven_of_le {num den n : Nat} (hden : 0 < den) (h : n * den ≤ num) :
    n ≤ roundHalfEven num den := by
  rw [← roundHalfEven_mul_self n hden]
  exact roundHalfEven_mono den h

/-! ## Rounding to a magnitude -/

/-- The power of two that is the step between magnitudes of the size of a fraction. -/
def step (num den : Nat) : Nat := (num / den).log2 - 52

/-- The representable magnitude nearest to a fraction, if there were no largest one. -/
def rounded (num den : Nat) : Nat :=
  roundHalfEven num (den * 2 ^ step num den) * 2 ^ step num den

/-- A fraction is rounded to so many units of the smallest step. -/
theorem ofRatio_eq_ofUnits (negative : Bool) (num den : Nat) :
    ofRatio negative num den = ofUnits negative (rounded (num * unitsPerOne) den) := rfl

theorem log2_le_log2 {m n : Nat} (h : m ≤ n) : m.log2 ≤ n.log2 := by
  by_cases hm : m = 0
  · rw [hm, Nat.log2_zero]
    exact Nat.zero_le _
  · exact (Nat.le_log2 (by omega)).mpr ((Nat.log2_self_le hm).trans h)

/-- The lesser fraction has the lesser whole part. -/
theorem div_le_div_of_mul_le {num den num' den' : Nat} (hden : 0 < den) (hden' : 0 < den')
    (h : num * den' ≤ num' * den) : num / den ≤ num' / den' := by
  rw [Nat.le_div_iff_mul_le hden']
  apply Nat.le_of_mul_le_mul_right (c := den) _ hden
  calc num / den * den' * den = num / den * den * den' := Nat.mul_right_comm _ _ _
    _ ≤ num * den' := Nat.mul_le_mul_right _ (Nat.div_mul_le_self num den)
    _ ≤ num' * den := h

/-- A fraction is less than 2^53 of its steps. -/
theorem le_of_step {num den : Nat} (hden : 0 < den) :
    num ≤ 2 ^ 53 * (den * 2 ^ step num den) := by
  have hlog : num / den < 2 ^ (53 + step num den) := by
    calc num / den < 2 ^ ((num / den).log2 + 1) := Nat.lt_log2_self
      _ ≤ 2 ^ (53 + step num den) := Nat.pow_le_pow_right (by decide) (by unfold step; omega)
  have hlt : num < 2 ^ (53 + step num den) * den := (Nat.div_lt_iff_lt_mul hden).mp hlog
  rw [Nat.pow_add, Nat.mul_assoc, Nat.mul_comm _ den] at hlt
  exact hlt.le

/-- Where steps are larger than a unit, a fraction is at least 2^52 of them. -/
theorem le_of_step_pos {num den : Nat} (hden : 0 < den) (h : 0 < step num den) :
    2 ^ 52 * (den * 2 ^ step num den) ≤ num := by
  have hne : num / den ≠ 0 := by
    intro hzero
    rw [step, hzero] at h
    exact absurd h (by decide)
  have hlog : 2 ^ (52 + step num den) ≤ num / den := by
    rw [show 52 + step num den = (num / den).log2 by unfold step at h ⊢; omega]
    exact Nat.log2_self_le hne
  rw [Nat.mul_left_comm, ← Nat.pow_add, Nat.mul_comm]
  exact (Nat.le_div_iff_mul_le hden).mp hlog

/-- A rounded magnitude has 53 bits at its step, or is the power of two above these. -/
theorem rounded_le {num den : Nat} (hden : 0 < den) :
    rounded num den ≤ 2 ^ (53 + step num den) := by
  have hstep : 0 < den * 2 ^ step num den := Nat.mul_pos hden (Nat.two_pow_pos _)
  rw [rounded, Nat.pow_add]
  exact Nat.mul_le_mul_right _ (roundHalfEven_le_of_le hstep (le_of_step hden))

/-- Rounding a fraction to a magnitude depends on its value only, and grows with it. -/
theorem rounded_le_rounded {num den num' den' : Nat} (hden : 0 < den) (hden' : 0 < den')
    (h : num * den' ≤ num' * den) : rounded num den ≤ rounded num' den' := by
  have hsteps : step num den ≤ step num' den' :=
    Nat.sub_le_sub_right (log2_le_log2 (div_le_div_of_mul_le hden hden' h)) 52
  rcases Nat.lt_or_eq_of_le hsteps with hlt | heq
  · -- The two values lie on different sides of a power of two, which is a magnitude itself.
    have hstep' : 0 < den' * 2 ^ step num' den' := Nat.mul_pos hden' (Nat.two_pow_pos _)
    calc rounded num den ≤ 2 ^ (53 + step num den) := rounded_le hden
      _ ≤ 2 ^ (52 + step num' den') := Nat.pow_le_pow_right (by decide) (by omega)
      _ = 2 ^ 52 * 2 ^ step num' den' := Nat.pow_add _ _ _
      _ ≤ rounded num' den' := Nat.mul_le_mul_right _
          (le_roundHalfEven_of_le hstep' (le_of_step_pos hden' (by omega)))
  · unfold rounded
    rw [heq]
    have hpower := Nat.two_pow_pos (step num' den')
    refine Nat.mul_le_mul_right _ (roundHalfEven_le_roundHalfEven (Nat.mul_pos hden hpower)
      (Nat.mul_pos hden' hpower) ?_)
    rw [← Nat.mul_assoc, ← Nat.mul_assoc]
    exact Nat.mul_le_mul_right _ h

theorem rounded_zero (den : Nat) : rounded 0 den = 0 := by
  unfold rounded roundHalfEven
  simp

/-- A rounded magnitude is a multiple of the step that its own size allows. -/
theorem step_dvd_rounded {num den : Nat} (hden : 0 < den) :
    2 ^ ((rounded num den).log2 - 52) ∣ rounded num den := by
  have hle : rounded num den ≤ 2 ^ (53 + step num den) := rounded_le hden
  rcases Nat.lt_or_eq_of_le hle with hlt | heq
  · by_cases hzero : rounded num den = 0
    · rw [hzero]
      exact Nat.dvd_zero _
    · have hlog := (Nat.log2_lt hzero).mpr hlt
      have hpower : 2 ^ ((rounded num den).log2 - 52) ∣ 2 ^ step num den :=
        Nat.pow_dvd_pow 2 (by omega)
      exact hpower.trans (Nat.dvd_mul_left _ _)
  · rw [heq, Nat.log2_two_pow]
    exact Nat.pow_dvd_pow 2 (by omega)

/-! ## The place of a magnitude -/

/-- The place of the infinities on the extended line. -/
def top : Nat := Nat.pow 2 2098

theorem top_eq {t : Nat} (ht : 2098 = t) : top = 2 ^ t := by
  unfold top
  rw [ht]
  rfl

/-- The place of infinity is the one above all finite numbers. -/
theorem place?_infinite (negative : Bool) :
    (infinite negative).place? = some (signed negative top) := by
  unfold place? top
  simp only

/-- The place of a number of units, if no bits are lost, is this number of units, or that of
infinity. -/
theorem place?_ofUnits (negative : Bool) {units : Nat} (h : 2 ^ (units.log2 - 52) ∣ units) :
    (ofUnits negative units).place? = some (signed negative (min units top)) := by
  obtain ⟨t, ht⟩ : ∃ t, 2098 = t := ⟨_, rfl⟩
  have htop := top_eq ht
  by_cases hsmall : units < 2 ^ 52
  · have hle : units ≤ top := by
      rw [htop]
      exact hsmall.le.trans (Nat.pow_le_pow_right (by decide) (by omega))
    have hmod : units % 4503599627370496 = units := Nat.mod_eq_of_lt hsmall
    rw [ofUnits, if_pos (show units < Nat.pow 2 52 from hsmall), Nat.min_eq_left hle]
    simp only [place?, magnitude, hmod, if_true]
  · have hne : units ≠ 0 := by
      rintro rfl
      exact hsmall (by decide)
    have hlog : 52 ≤ units.log2 := (Nat.le_log2 hne).mpr (Nat.le_of_not_lt hsmall)
    rw [ofUnits, if_neg (show ¬ units < Nat.pow 2 52 from hsmall)]
    simp only
    by_cases hrange : units.log2 - 52 + 1 < 2047
    · have hle : units ≤ top := by
        rw [htop]
        exact Nat.lt_log2_self.le.trans (Nat.pow_le_pow_right (by decide) (by omega))
      -- The digits behind the first one are the fraction of the number.
      obtain ⟨n, hn⟩ := h
      have hpower : 0 < 2 ^ (units.log2 - 52) := Nat.two_pow_pos _
      have hdiv : units / 2 ^ (units.log2 - 52) = n :=
        Nat.div_eq_of_eq_mul_right hpower hn
      have hlow : 2 ^ 52 ≤ n := by
        rw [← hdiv, Nat.le_div_iff_mul_le hpower, ← Nat.pow_add,
          show 52 + (units.log2 - 52) = units.log2 by omega]
        exact Nat.log2_self_le hne
      have hhigh : n < 2 ^ 53 := by
        rw [← hdiv, Nat.div_lt_iff_lt_mul hpower, ← Nat.pow_add,
          show 53 + (units.log2 - 52) = units.log2 + 1 by omega]
        exact Nat.lt_log2_self
      have hmagnitude : 4503599627370496 + n % 4503599627370496 = n := by omega
      have hunits : (Nat.pow 2 52 + units / Nat.pow 2 (units.log2 - 52) % 4503599627370496) *
          Nat.pow 2 (units.log2 - 52) = units := by
        change (4503599627370496 + units / 2 ^ (units.log2 - 52) % 4503599627370496) *
          2 ^ (units.log2 - 52) = units
        rw [hdiv, hmagnitude, Nat.mul_comm]
        exact hn.symm
      rw [dif_pos hrange, Nat.min_eq_left hle]
      simp only [place?, magnitude, Nat.succ_ne_zero, if_false, Nat.add_sub_cancel, hunits]
    · have hle : top ≤ units := by
        rw [htop, ← Nat.le_log2 hne]
        omega
      rw [dif_neg hrange, Nat.min_eq_right hle, place?_infinite]

/-! ## Exact values -/

/-- The place of a fraction is that of its rounded magnitude, with the sign. -/
theorem place?_ofRatio (negative : Bool) {num den : Nat} (hden : 0 < den) :
    (ofRatio negative num den).place? =
      some (signed negative (min (rounded (num * unitsPerOne) den) top)) := by
  rw [ofRatio_eq_ofUnits, place?_ofUnits negative (step_dvd_rounded hden)]

/-- The magnitude of the number nearest to an exact value. -/
def nearestMagnitude (q : ℚ) : Nat := min (rounded (q.num.natAbs * unitsPerOne) q.den) top

/-- The place of the number nearest to an exact value. -/
def nearestPlace (q : ℚ) : Int := signed (q < 0) (nearestMagnitude q)

/-- The magnitude of a rational number is that of its numerator over its denominator. -/
theorem natAbs_num_div_den (q : ℚ) : (q.num.natAbs : ℚ) / q.den = |q| := by
  conv_rhs => rw [← Rat.num_div_den q]
  rw [abs_div, Nat.abs_cast, Nat.cast_natAbs, Int.cast_abs]

/-- The lesser fraction is rounded to the lesser number of units. -/
theorem rounded_units_le {num den num' den' : Nat} (hden : 0 < den) (hden' : 0 < den')
    (h : (num / den : ℚ) ≤ num' / den') :
    rounded (num * unitsPerOne) den ≤ rounded (num' * unitsPerOne) den' := by
  apply rounded_le_rounded hden hden'
  rw [div_le_div_iff₀ (Nat.cast_pos.mpr hden) (Nat.cast_pos.mpr hden')] at h
  have hmul : num * den' ≤ num' * den := by exact_mod_cast h
  rw [Nat.mul_right_comm, Nat.mul_right_comm num']
  exact Nat.mul_le_mul_right _ hmul

/-- The lesser magnitude has the lesser nearest one. -/
theorem nearestMagnitude_le_nearestMagnitude {q r : ℚ} (h : |q| ≤ |r|) :
    nearestMagnitude q ≤ nearestMagnitude r := by
  rw [← natAbs_num_div_den q, ← natAbs_num_div_den r] at h
  exact min_le_min_right _ (rounded_units_le q.pos r.pos h)

/-- The magnitude may be computed from any fraction of the same value. -/
theorem nearestMagnitude_eq {q : ℚ} {num den : Nat} (hden : 0 < den) (h : |q| = num / den) :
    nearestMagnitude q = min (rounded (num * unitsPerOne) den) top := by
  rw [← natAbs_num_div_den q] at h
  rw [nearestMagnitude, Nat.le_antisymm (rounded_units_le q.pos hden h.le)
    (rounded_units_le hden q.pos h.ge)]

/-- The nearest number does not become smaller where the exact value does not. -/
theorem nearestPlace_le_nearestPlace {q r : ℚ} (h : q ≤ r) : nearestPlace q ≤ nearestPlace r := by
  unfold nearestPlace
  rcases lt_or_ge q 0 with hq | hq
  · rcases lt_or_ge r 0 with hr | hr
    · have hle : nearestMagnitude r ≤ nearestMagnitude q := by
        apply nearestMagnitude_le_nearestMagnitude
        rw [abs_of_neg hq, abs_of_neg hr]
        exact neg_le_neg h
      simp only [signed, hq, hr, decide_true, if_true]
      omega
    · simp only [signed, hq, hr.not_gt, decide_true, decide_false, if_true, Bool.false_eq_true,
        if_false]
      omega
  · have hr : 0 ≤ r := hq.trans h
    have hle : nearestMagnitude q ≤ nearestMagnitude r := by
      apply nearestMagnitude_le_nearestMagnitude
      rwa [abs_of_nonneg hq, abs_of_nonneg hr]
    simp only [signed, hq.not_gt, hr.not_gt, decide_false, Bool.false_eq_true, if_false]
    omega

/-- Whether a number is the one nearest to an exact value: it is in the place of that one. -/
def IsNearest (x : Binary64) (q : ℚ) : Prop := x.place? = some (nearestPlace q)

/-- A number with a sign. -/
def exactSigned (negative : Bool) (q : ℚ) : ℚ := if negative then -q else q

/-- A fraction is converted to the number nearest to it. -/
theorem isNearest_ofRatio (negative : Bool) (num : Nat) {den : Nat} (hden : 0 < den) :
    IsNearest (ofRatio negative num den) (exactSigned negative (num / den)) := by
  have hnonneg : (0 : ℚ) ≤ num / den := by positivity
  have habs : |exactSigned negative (num / den)| = (num / den : ℚ) := by
    rw [exactSigned]
    split
    · rw [abs_neg, abs_of_nonneg hnonneg]
    · exact abs_of_nonneg hnonneg
  rw [IsNearest, place?_ofRatio negative hden, nearestPlace, nearestMagnitude_eq hden habs]
  rcases hnonneg.eq_or_lt with hzero | hpos
  · -- Zero has one place, whatever its sign.
    have hnum : num = 0 := by
      have hden' : (den : ℚ) ≠ 0 := Nat.cast_ne_zero.mpr hden.ne'
      exact_mod_cast (div_eq_zero_iff.mp hzero.symm).resolve_right hden'
    have hsigned (b : Bool) : signed b 0 = 0 := by cases b <;> rfl
    rw [hnum, Nat.zero_mul, rounded_zero, Nat.zero_min, hsigned, hsigned]
  · have hsign : decide (exactSigned negative (num / den) < (0 : ℚ)) = negative := by
      cases negative with
      | true => exact decide_eq_true (neg_lt_zero.mpr hpos)
      | false => exact decide_eq_false hpos.not_gt
    rw [hsign]

theorem exactSigned_natAbs (n : Int) : exactSigned (decide (n < 0)) n.natAbs = (n : ℚ) := by
  rw [exactSigned, Nat.cast_natAbs, Int.cast_abs]
  by_cases hn : n < 0
  · rw [if_pos (decide_eq_true hn), abs_of_neg (Int.cast_lt_zero.mpr hn), neg_neg]
  · rw [if_neg (by simpa using hn), abs_of_nonneg (Int.cast_nonneg (not_lt.mp hn))]

/-- An integer is converted to the number nearest to it. -/
theorem isNearest_ofInt (n : Int) : IsNearest (ofInt n) n := by
  have h := isNearest_ofRatio (decide (n < 0)) n.natAbs Nat.one_pos
  rwa [Nat.cast_one, div_one, exactSigned_natAbs] at h

theorem unitsPerOne_pos : 0 < unitsPerOne := by
  obtain ⟨u, hu⟩ : ∃ u, 1074 = u := ⟨_, rfl⟩
  rw [unitsPerOne_eq hu]
  exact twoPow_pos u

/-- Whether an exact value is that of a number of the format. -/
def IsExact (q : ℚ) : Prop :=
  ∃ negative exponent fraction, q = exactSigned negative (magnitude exponent fraction / unitsPerOne)

/-- The number nearest to an exact value of the format is the one with this value. -/
theorem nearestPlace_of_isExact {q : ℚ} (h : IsExact q) :
    (nearestPlace q : ℚ) = q * unitsPerOne := by
  obtain ⟨negative, exponent, fraction, rfl⟩ := h
  have hnearest := isNearest_ofRatio negative (magnitude exponent fraction) unitsPerOne_pos
  rw [ofRatio_of_units negative unitsPerOne_pos rfl] at hnearest
  rw [← Option.some.inj hnearest, exactSigned, signed]
  have hcancel : (magnitude exponent fraction / unitsPerOne : ℚ) * unitsPerOne =
      magnitude exponent fraction := div_mul_cancel₀ _ (Nat.cast_ne_zero.mpr unitsPerOne_pos.ne')
  split
  · rw [neg_mul, hcancel]
    push_cast
    rfl
  · rw [hcancel]
    push_cast
    rfl

/-- No order between exact values of the format is lost. -/
theorem nearestPlace_lt_nearestPlace {q r : ℚ} (hq : IsExact q) (hr : IsExact r) (h : q < r) :
    nearestPlace q < nearestPlace r := by
  have hunits : (0 : ℚ) < unitsPerOne := Nat.cast_pos.mpr unitsPerOne_pos
  have hlt : (nearestPlace q : ℚ) < nearestPlace r := by
    rw [nearestPlace_of_isExact hq, nearestPlace_of_isExact hr]
    exact mul_lt_mul_of_pos_right h hunits
  exact_mod_cast hlt

/-! ## Comparing nearest numbers -/

section IsNearest

variable {x y : Binary64} {q r : ℚ}

/-- Nearest numbers keep the order of exact values. -/
theorem IsNearest.le (hx : IsNearest x q) (hy : IsNearest y r) (h : q ≤ r) : x.le y = true := by
  rw [Binary64.le, related, hx, hy]
  exact decide_eq_true (nearestPlace_le_nearestPlace h)

/-- Nearest numbers do not turn the order of exact values around. -/
theorem IsNearest.not_lt (hx : IsNearest x q) (hy : IsNearest y r) (h : q ≤ r) :
    y.lt x = false := by
  rw [Binary64.lt, related, hx, hy]
  exact decide_eq_false (nearestPlace_le_nearestPlace h).not_gt

/-- Where both values have numbers of their own, the lesser one has the lesser number. -/
theorem IsNearest.lt (hx : IsNearest x q) (hy : IsNearest y r) (hq : IsExact q) (hr : IsExact r)
    (h : q < r) : x.lt y = true := by
  rw [Binary64.lt, related, hx, hy]
  exact decide_eq_true (nearestPlace_lt_nearestPlace hq hr h)

/-- Where both values have numbers of their own, the greater one has no lesser or equal number. -/
theorem IsNearest.not_le (hx : IsNearest x q) (hy : IsNearest y r) (hq : IsExact q)
    (hr : IsExact r) (h : q < r) : y.le x = false := by
  rw [Binary64.le, related, hx, hy]
  exact decide_eq_false (nearestPlace_lt_nearestPlace hq hr h).not_ge

/-- Numbers nearest to the same value are equal. -/
theorem IsNearest.eq (hx : IsNearest x q) (hy : IsNearest y q) : x.eq y = true := by
  rw [Binary64.eq, related, hx, hy]
  exact decide_eq_true rfl

end IsNearest

end Binary64

namespace Decimal

/-- The exact value of a decimal. -/
def exactValue (d : Decimal) : ℚ :=
  Binary64.exactSigned d.negative (d.coefficient * 10 ^ d.exponent)

/-- A decimal is converted to the number nearest to it. -/
theorem isNearest_toBinary64 (d : Decimal) : d.toBinary64.IsNearest d.exactValue := by
  have hden : 0 < 10 ^ (-d.exponent).toNat := Nat.pow_pos (by decide)
  have h := Binary64.isNearest_ofRatio d.negative (d.coefficient * 10 ^ d.exponent.toNat) hden
  have hpower : (10 : ℚ) ^ d.exponent.toNat / 10 ^ (-d.exponent).toNat = 10 ^ d.exponent := by
    rw [← zpow_natCast, ← zpow_natCast, ← zpow_sub₀ (by norm_num)]
    congr 1
    omega
  rw [toBinary64_eq_ofRatio, exactValue, ← hpower]
  push_cast at h
  rwa [← mul_div_assoc]

end Decimal

end ContentQuery
