import ContentQuery.Proofs.NumberOrder
import ContentQuery.Proofs.NumberText

/-!
# ContentQuery.Proofs.DisplayedLiteral

Literals as they are shown, typed in again. An integral number is shown with all its digits, and
these are a numeral; another number is shown with its shortest decimal, and this is a numeral
unless the number is so small that a power of ten is written.
-/

namespace ContentQuery

namespace Binary64

variable {x : Binary64} {q : ℚ} {negative : Bool} {exponent : Fin 2047}
  {fraction : Fin 4503599627370496}

/-! ## Exact values -/

/-- The exact value of a finite number. -/
def exactValue? : Binary64 → Option ℚ
  | finite negative exponent fraction =>
    some (exactSigned negative (magnitude exponent fraction / unitsPerOne))
  | _ => none

theorem isNearest_of_exactValue? (h : x.exactValue? = some q) : x.IsNearest q := by
  cases x with
  | finite negative exponent fraction =>
      rw [← Option.some.inj h]
      have hnearest := isNearest_ofRatio negative (magnitude exponent fraction) unitsPerOne_pos
      rwa [ofRatio_of_units negative unitsPerOne_pos rfl] at hnearest
  | infinite negative => contradiction
  | nan => contradiction

theorem abs_exactSigned (negative : Bool) (h : 0 ≤ q) : |exactSigned negative q| = q := by
  rw [exactSigned]
  split
  · rw [abs_neg, abs_of_nonneg h]
  · exact abs_of_nonneg h

/-- The units of a number are those of the number nearest to any value that it is nearest to. -/
theorem magnitude_eq_nearestMagnitude (h : (finite negative exponent fraction).IsNearest q) :
    magnitude exponent fraction = nearestMagnitude q := by
  have hplace : signed negative (magnitude exponent fraction) = nearestPlace q := Option.some.inj h
  have habs (b : Bool) (units : Nat) : (signed b units).natAbs = units := by
    cases b with
    | true => exact (Int.natAbs_neg _).trans (Int.natAbs_natCast _)
    | false => exact Int.natAbs_natCast _
  rw [← habs negative (magnitude exponent fraction), hplace, nearestPlace, habs]

/-- A number is an integer exactly if its exact value is. -/
theorem toInt?_eq_some_iff {n : Int} : x.toInt? = some n ↔ x.exactValue? = some (n : ℚ) := by
  cases x with
  | finite negative exponent fraction =>
      have hunits : (unitsPerOne : ℚ) ≠ 0 := Nat.cast_ne_zero.mpr unitsPerOne_pos.ne'
      have hsigned (k : Nat) : exactSigned negative k = (signed negative k : ℚ) := by
        cases negative <;> simp [exactSigned, signed]
      simp only [toInt?, exactValue?]
      split
      · next hdvd =>
          obtain ⟨k, hk⟩ := Nat.dvd_of_mod_eq_zero hdvd
          rw [hk, Nat.mul_div_cancel_left k unitsPerOne_pos, Nat.cast_mul,
            mul_div_cancel_left₀ _ hunits, hsigned, Option.some.injEq, Option.some.injEq,
            Int.cast_inj]
      · next hrest =>
          simp only [reduceCtorEq, Option.some.injEq, false_iff]
          intro hvalue
          have habs : (magnitude exponent fraction / unitsPerOne : ℚ) = (n.natAbs : ℚ) := by
            have hnonneg : (0 : ℚ) ≤ magnitude exponent fraction / unitsPerOne :=
              div_nonneg (Nat.cast_nonneg _) (Nat.cast_nonneg _)
            rw [← abs_exactSigned negative hnonneg, hvalue, Nat.cast_natAbs,
              Int.cast_abs]
          rw [div_eq_iff hunits] at habs
          have hmul : magnitude exponent fraction = n.natAbs * unitsPerOne := by exact_mod_cast habs
          exact hrest (hmul ▸ Nat.mul_mod_left _ _)
  | infinite negative => simp [toInt?, exactValue?]
  | nan => simp [toInt?, exactValue?]

end Binary64

namespace Decimal

variable {d : Decimal}

/-- How many of the digits of a decimal stand before its point. -/
def before (d : Decimal) : Int := (Text.ofNat d.coefficient).length + d.exponent

theorem abs_exactValue (d : Decimal) : |d.exactValue| = d.coefficient * 10 ^ d.exponent :=
  Binary64.abs_exactSigned _ (mul_nonneg (Nat.cast_nonneg _) (zpow_nonneg (by norm_num) _))

/-- The digits before the point tell the size of a decimal. -/
theorem abs_exactValue_bounds (h : d.coefficient ≠ 0) :
    (10 : ℚ) ^ (d.before - 1) ≤ |d.exactValue| ∧ |d.exactValue| < 10 ^ d.before := by
  obtain ⟨length, hlength⟩ : ∃ length, (Text.ofNat d.coefficient).length = length + 1 :=
    Nat.exists_eq_succ_of_ne_zero (List.length_pos_of_ne_nil (Text.ofNat_ne_nil _)).ne'
  have hhigh : d.coefficient < 10 ^ (length + 1) :=
    (Text.length_ofNat_le_iff (Nat.succ_pos length)).mp hlength.le
  have hlow : 10 ^ length ≤ d.coefficient := by
    rcases Nat.eq_zero_or_pos length with rfl | hpos
    · exact Nat.one_le_iff_ne_zero.mpr h
    · exact Nat.not_lt.mp fun hlt => by
        have hshort := (Text.length_ofNat_le_iff hpos).mpr hlt
        omega
  have hpower : (0 : ℚ) < 10 ^ d.exponent := zpow_pos (by norm_num) _
  rw [abs_exactValue, before, hlength]
  constructor
  · rw [show ((length + 1 : Nat) : Int) + d.exponent - 1 = length + d.exponent by omega,
      zpow_add₀ (by norm_num), zpow_natCast]
    exact mul_le_mul_of_nonneg_right (by exact_mod_cast hlow) hpower.le
  · rw [zpow_add₀ (by norm_num), zpow_natCast]
    exact mul_lt_mul_of_pos_right (by exact_mod_cast hhigh) hpower

end Decimal

namespace Binary64

variable {negative : Bool} {exponent : Fin 2047} {fraction : Fin 4503599627370496}

/-! ## The size of shortest decimals -/

theorem nearestMagnitude_exactValue {d : Decimal}
    (h : d.toBinary64 = finite negative exponent fraction) :
    nearestMagnitude d.exactValue = magnitude exponent fraction := by
  have hnearest := d.isNearest_toBinary64
  rw [h] at hnearest
  exact (magnitude_eq_nearestMagnitude hnearest).symm

/-- The exponent of the number nearest to a ten-thousandth. -/
def leastExponent : Fin 2047 := ⟨1009, by decide⟩

/-- The fraction of the number nearest to a ten-thousandth. -/
def leastFraction : Fin 4503599627370496 := ⟨2875098002113325, by decide⟩

theorem nearestMagnitude_tenThousandth :
    nearestMagnitude (1 / 10000) = magnitude leastExponent leastFraction := by
  have hnumber : Decimal.toBinary64 ⟨false, 1, -4⟩ = finite false leastExponent leastFraction := by
    decide +kernel
  rw [← nearestMagnitude_exactValue hnumber]
  norm_num [Decimal.exactValue, exactSigned]

theorem tenThousandth_le :
    (1 / 10000 : ℚ) ≤ magnitude leastExponent leastFraction / unitsPerOne := by
  have hunits : unitsPerOne ≤ magnitude leastExponent leastFraction * 10000 := by decide +kernel
  rw [div_le_div_iff₀ (by norm_num) (Nat.cast_pos.mpr unitsPerOne_pos), one_mul]
  exact_mod_cast hunits

theorem shortest_least (negative : Bool) :
    shortest negative (magnitude leastExponent leastFraction) = ⟨negative, 1, -4⟩ := by
  cases negative <;> decide +kernel

/-- The shortest decimal of a number has its digits at most three places behind the point exactly if
the number is not smaller than a ten-thousandth. -/
theorem lt_before_shortest_iff (negative : Bool) (h : magnitude exponent fraction ≠ 0) :
    -4 < (shortest negative (magnitude exponent fraction)).before ↔
      (1 / 10000 : ℚ) ≤ magnitude exponent fraction / unitsPerOne := by
  have hunits : (0 : ℚ) < unitsPerOne := Nat.cast_pos.mpr unitsPerOne_pos
  have hnumber := nearestMagnitude_exactValue (shortest_spec negative exponent fraction).2
  obtain ⟨hlow, hhigh⟩ := Decimal.abs_exactValue_bounds (coefficient_shortest_ne_zero negative h)
  have hpower : (10 : ℚ) ^ (-4 : Int) = 1 / 10000 := by norm_num
  have hleast : |(1 / 10000 : ℚ)| = 1 / 10000 := abs_of_nonneg (by norm_num)
  constructor
  · intro hbefore
    have hdecimal : (1 / 10000 : ℚ) ≤
        |(shortest negative (magnitude exponent fraction)).exactValue| := by
      rw [← hpower]
      exact (zpow_le_zpow_right₀ (by norm_num) (by omega)).trans hlow
    have hle := nearestMagnitude_le_nearestMagnitude (hleast.trans_le hdecimal)
    rw [hnumber, nearestMagnitude_tenThousandth] at hle
    refine tenThousandth_le.trans ((div_le_div_iff_of_pos_right hunits).mpr ?_)
    exact_mod_cast hle
  · intro hvalue
    by_contra hbefore
    have hexact : nearestMagnitude (magnitude exponent fraction / unitsPerOne) =
        magnitude exponent fraction := by
      have hnearest : (finite false exponent fraction).IsNearest
          (magnitude exponent fraction / unitsPerOne) := isNearest_of_exactValue? rfl
      exact (magnitude_eq_nearestMagnitude hnearest).symm
    have habs : |(magnitude exponent fraction / unitsPerOne : ℚ)| =
        magnitude exponent fraction / unitsPerOne :=
      abs_of_nonneg (div_nonneg (Nat.cast_nonneg _) hunits.le)
    have hge := nearestMagnitude_le_nearestMagnitude (hleast.trans_le (hvalue.trans habs.ge))
    have hdecimal : |(shortest negative (magnitude exponent fraction)).exactValue| ≤ 1 / 10000 := by
      rw [← hpower]
      exact hhigh.le.trans (zpow_le_zpow_right₀ (by norm_num) (by omega))
    have hle := nearestMagnitude_le_nearestMagnitude (hdecimal.trans hleast.ge)
    rw [nearestMagnitude_tenThousandth, hexact] at hge
    rw [nearestMagnitude_tenThousandth, hnumber] at hle
    -- Only the number nearest to a ten-thousandth is left, and it is shown as that.
    have hthree : ∀ negative, Decimal.before ⟨negative, 1, -4⟩ = -3 := by decide
    rw [Nat.le_antisymm hle hge, shortest_least, hthree] at hbefore
    exact hbefore (by decide)

/-- The shortest decimal of a number that is no integer has no more than sixteen digits before its
point. -/
theorem before_shortest_le (h : magnitude exponent fraction % unitsPerOne ≠ 0) :
    (shortest negative (magnitude exponent fraction)).before ≤ 16 := by
  have hne : magnitude exponent fraction ≠ 0 := by
    intro hzero
    rw [hzero] at h
    exact h (Nat.zero_mod _)
  -- From 2 ^ 52 on the step between numbers is one at least.
  have hsmall : magnitude exponent fraction < Nat.pow 2 52 * unitsPerOne := by
    by_contra hge
    obtain ⟨u, hu⟩ : ∃ u, 1074 = u := ⟨_, rfl⟩
    obtain ⟨n, hn⟩ := exists_magnitude_eq_mul exponent fraction
    rw [unitsPerOne_eq hu] at h hge
    have hlog : 52 + u ≤ (magnitude exponent fraction).log2 := by
      rw [Nat.le_log2 hne, Nat.pow_add]
      exact Nat.not_lt.mp hge
    have hdvd : Nat.pow 2 u ∣ magnitude exponent fraction := by
      rw [hn]
      exact (Nat.pow_dvd_pow 2 (by omega)).trans (Nat.dvd_mul_left _ _)
    exact h (Nat.mod_eq_zero_of_dvd hdvd)
  by_contra hbefore
  have hnumber := nearestMagnitude_exactValue (shortest_spec negative exponent fraction).2
  have hten : Decimal.toBinary64 ⟨false, 1, 16⟩ =
      finite false ⟨1076, by decide⟩ ⟨496400372629504, by decide⟩ := by decide +kernel
  have hlow := (Decimal.abs_exactValue_bounds (coefficient_shortest_ne_zero negative hne)).1
  have hdecimal : |Decimal.exactValue ⟨false, 1, 16⟩| ≤
      |(shortest negative (magnitude exponent fraction)).exactValue| := by
    have hsize : |Decimal.exactValue ⟨false, 1, 16⟩| = 10 ^ (16 : Int) := by
      rw [Decimal.abs_exactValue, Nat.cast_one, one_mul]
    rw [hsize]
    exact (zpow_le_zpow_right₀ (by norm_num) (by omega)).trans hlow
  have hle := nearestMagnitude_le_nearestMagnitude hdecimal
  rw [hnumber, nearestMagnitude_exactValue hten] at hle
  have hlarge : Nat.pow 2 52 * unitsPerOne ≤
      magnitude ⟨1076, by decide⟩ ⟨496400372629504, by decide⟩ := by decide +kernel
  exact Nat.not_lt.mpr (hlarge.trans hle) hsmall

theorem textOf_eq (d : Decimal) : textOf d = Json.signText d.negative ++
    if -4 < d.before ∧ d.before ≤ 16 then positional (Text.ofNat d.coefficient) d.before
    else scientific (Text.ofNat d.coefficient) (d.before - 1) := rfl

end Binary64

namespace Literal

/-! ## Reading what is shown -/

theorem exists_text_eq_ofInt (n : Int) : ∃ numeral : WrittenNumeral,
    numeral.text = Text.ofInt n ∧ numeral.decimal = ⟨decide (n < 0), n.natAbs, 0⟩ := by
  have hdigits := (Json.isWhole_ofNat n.natAbs).isDigits
  refine ⟨⟨decide (n < 0), Text.ofNat n.natAbs, none, hdigits, nofun⟩, ?_, ?_⟩
  · cases n with
    | ofNat m => exact List.append_nil _
    | negSucc m =>
        rw [WrittenNumeral.text, if_pos (decide_eq_true (Int.negSucc_lt_zero m))]
        exact congrArg (('-' : CodePoint) :: ·) (List.append_nil _)
  · rw [WrittenNumeral.decimal, Decimal.mk.injEq, Option.getD_none, List.append_nil,
      Text.digitsValue_ofNat]
    exact ⟨rfl, rfl, rfl⟩

/-- The digits of an integer are read as the number nearest to it. -/
theorem exists_parse_ofInt (n : Int) :
    ∃ x, parse (Text.ofInt n) = .number x ∧ x.IsNearest n := by
  obtain ⟨numeral, htext, hdecimal⟩ := exists_text_eq_ofInt n
  have hread := WrittenLiteral.parse_text (.number numeral)
  have hnearest := numeral.decimal.isNearest_toBinary64
  have hvalue : Decimal.exactValue ⟨decide (n < 0), n.natAbs, 0⟩ = n := by
    rw [Decimal.exactValue, zpow_zero, mul_one, Binary64.exactSigned_natAbs]
  rw [hdecimal, hvalue, ← hdecimal] at hnearest
  exact ⟨_, htext ▸ hread, hnearest⟩

/-- A decimal that is written with a point is read as the number nearest to it. -/
theorem parse_textOf_positional {d : Decimal} (hd : d.coefficient ≠ 0)
    (hbefore : -4 < d.before ∧ d.before ≤ 16) :
    parse (Binary64.textOf d) = .number d.toBinary64 := by
  obtain ⟨whole, fraction, htext, h⟩ := Json.exists_positional_eq d.negative hd d.before
  let numeral : WrittenNumeral :=
    ⟨d.negative, whole, some fraction, h.isWhole.isDigits, fun digits hdigits =>
      Option.some.inj hdigits ▸ WrittenNumeral.isDigits_iff.mpr ⟨h.nonempty, h.digits⟩⟩
  have hsigned : numeral.text = Binary64.textOf d := by
    rw [Binary64.textOf_eq, if_pos hbefore, htext, WrittenNumeral.text]
    cases hnegative : d.negative <;> simp [numeral, hnegative] <;> rfl
  have hvalue : numeral.decimal.toBinary64 = d.toBinary64 := by
    have hexponent : d.before - (Text.ofNat d.coefficient).length = d.exponent := by
      rw [Decimal.before]
      omega
    have hdecimal : numeral.decimal = Decimal.ofDigits d.negative whole fraction 0 := by
      rw [Decimal.ofDigits, Int.zero_sub]
      rfl
    rw [hdecimal, h.value, hexponent]
  have hread := WrittenLiteral.parse_text (.number numeral)
  rw [WrittenLiteral.text, WrittenLiteral.value, hsigned, hvalue] at hread
  exact hread

/-- Where a letter of a power stands in what begins like a number, a string is read. -/
theorem parse_of_power {s : Text} (hfirst : ∃ c rest, s = c :: rest ∧ (c = '-' ∨ c.isDigit = true))
    (hlast : ∃ init d, s = init ++ [d] ∧ d.isDigit = true) (hletter : ('e' : CodePoint) ∈ s) :
    parse s = .string s := by
  obtain ⟨c, rest, hs, hc⟩ := hfirst
  obtain ⟨init, d, hs', hd⟩ := hlast
  have hink : c.isInk = true := by
    rcases hc with rfl | hc
    · rfl
    · exact CodePoint.isInk_of_isDigit hc
  have htrim : s.trim = s := by
    apply Text.trim_eq_self
    · rw [hs]
      rintro _ ⟨⟩
      exact hink
    · rw [hs', List.getLast?_concat]
      rintro _ ⟨⟩
      exact CodePoint.isInk_of_isDigit hd
  have hne {t : Text} (ht : ∀ c ∈ t.head?, c ≠ '-' ∧ c.isDigit = false) : s ≠ t := by
    rintro rfl
    obtain ⟨hminus, hdigit⟩ := ht c (by rw [hs]; rfl)
    rcases hc with rfl | hc
    · exact hminus rfl
    · rw [hdigit] at hc
      contradiction
  have hquote : isQuoted s = false := by
    have hmark : c ≠ '"' := by
      rintro rfl
      rcases hc with hc | hc <;> exact absurd hc (by decide)
    simp [isQuoted, hs, hmark]
  have hnumber : Decimal.ofNumeral? s = none := by
    rw [Option.eq_none_iff_forall_ne_some]
    intro d hread
    obtain ⟨n, rfl⟩ := WrittenNumeral.exists_of_ofNumeral? hread
    exact absurd (n.isPart_of_mem_text _ hletter) (by decide)
  have hnull : s ≠ "null" := hne (by rintro _ ⟨⟩; decide)
  have htrue : s ≠ "true" := hne (by rintro _ ⟨⟩; decide)
  have hfalse : s ≠ "false" := hne (by rintro _ ⟨⟩; decide)
  simp only [parse, htrim, hquote, hnumber, hnull, htrue, hfalse]
  rfl

/-- A decimal that is written with a power of ten is read as a string. -/
theorem parse_textOf_scientific {d : Decimal} (hbefore : ¬ (-4 < d.before ∧ d.before ≤ 16)) :
    parse (Binary64.textOf d) = .string (Binary64.textOf d) := by
  obtain ⟨c, fraction, hdigits⟩ := List.exists_cons_of_ne_nil (Text.ofNat_ne_nil d.coefficient)
  have hc : c.isDigit = true := Text.isDigit_of_mem_ofNat (hdigits ▸ List.mem_cons_self)
  have htext : Binary64.textOf d = Json.signText d.negative ++
      c :: (Json.pointText fraction ++ Json.powerText (d.before - 1)) := by
    rw [Binary64.textOf_eq, if_neg hbefore, hdigits, Json.scientific_cons]
  have hpower : ∃ mark, Json.powerText (d.before - 1) =
      ('e' : CodePoint) :: mark :: Text.ofNatPadded 2 (d.before - 1).natAbs := by
    rw [Json.powerText]
    split <;> exact ⟨_, rfl⟩
  obtain ⟨mark, hpower⟩ := hpower
  obtain ⟨init, last, hlast⟩ :
      ∃ init last, Text.ofNatPadded 2 (d.before - 1).natAbs = init ++ [last] :=
    ⟨_, _, (List.dropLast_concat_getLast (Text.ofNatPadded_ne_nil 2 _)).symm⟩
  rw [htext, hpower]
  refine parse_of_power ?_ ⟨Json.signText d.negative ++ c :: (Json.pointText fraction ++
    ('e' : CodePoint) :: mark :: init), last, by rw [hlast]; simp, ?_⟩ (by simp)
  · cases d.negative with
    | true => exact ⟨_, _, rfl, .inl rfl⟩
    | false => exact ⟨_, _, rfl, .inr hc⟩
  · have hmem : last ∈ Text.ofNatPadded 2 (d.before - 1).natAbs := by simp [hlast]
    exact Text.isDigit_of_mem_ofNatPadded hmem

/-! ## Typing in what is shown -/

/-- Whether two literals are of the same type and have equal values. -/
def Agrees (a b : Literal) : Prop :=
  a.typeName = b.typeName ∧
    match a, b with
    | number x, number y => x.eq y = true
    | a, b => a = b

/-- Whether a literal, apart from strings, has a form in which it can be typed in: a number must be
finite, and an integer or not smaller than a ten-thousandth. -/
def IsTypeable : Literal → Prop
  | number x => ∃ q, x.exactValue? = some q ∧ ((∃ n : Int, q = n) ∨ 1 / 10000 ≤ |q|)
  | _ => True

theorem not_agrees_string (s : Text) (x : Binary64) : ¬ (string s).Agrees (number x) := by
  have htypes : Text.ofString "String" ≠ Text.ofString "Number" := by decide
  exact fun h => htypes h.1

/-- An integer is shown with all its digits, and these are read as the same number. -/
theorem agrees_parse_display_of_toInt? {x : Binary64} {n : Int} (h : x.toInt? = some n) :
    (parse (number x).display).Agrees (number x) := by
  obtain ⟨y, hread, hy⟩ := exists_parse_ofInt n
  have hx := Binary64.isNearest_of_exactValue? (Binary64.toInt?_eq_some_iff.mp h)
  have hdisplay : (number x).display = Text.ofInt n := by simp only [display, h]
  rw [hdisplay, hread]
  exact ⟨rfl, hy.eq hx⟩

/-- A number that is no integer is shown with its shortest decimal, and that is a numeral exactly if
its first digit that counts is not too far behind the point. -/
theorem parse_shown_finite {negative : Bool} {exponent : Fin 2047} {fraction : Fin 4503599627370496}
    (h : (Binary64.finite negative exponent fraction).toInt? = none) :
    let x := Binary64.finite negative exponent fraction
    (number x).IsTypeable ∧ (parse x.shown).Agrees (number x) ∨
      ¬ (number x).IsTypeable ∧ parse x.shown = .string x.shown := by
  intro x
  have hrest : Binary64.magnitude exponent fraction % Binary64.unitsPerOne ≠ 0 := by
    intro hzero
    simp [Binary64.toInt?, hzero] at h
  have hne : Binary64.magnitude exponent fraction ≠ 0 := by
    intro hzero
    exact hrest (by rw [hzero, Nat.zero_mod])
  have hcoefficient := Binary64.coefficient_shortest_ne_zero negative hne
  have hnumber := (Binary64.shortest_spec negative exponent fraction).2
  have hposition := Binary64.lt_before_shortest_iff negative hne
  have htext : x.shown = Binary64.textOf
      (Binary64.shortest negative (Binary64.magnitude exponent fraction)) := by
    rw [Binary64.shown, Binary64.toText]
    exact if_neg hne
  have hsize := Binary64.abs_exactSigned negative
    (div_nonneg (Nat.cast_nonneg (Binary64.magnitude exponent fraction))
      (Nat.cast_nonneg Binary64.unitsPerOne))
  rw [htext]
  by_cases hbefore : -4 < (Binary64.shortest negative
      (Binary64.magnitude exponent fraction)).before
  · refine .inl ⟨⟨_, rfl, .inr ((hposition.mp hbefore).trans hsize.ge)⟩, ?_⟩
    rw [parse_textOf_positional hcoefficient
      ⟨hbefore, Binary64.before_shortest_le hrest⟩, hnumber]
    exact ⟨rfl, (Binary64.isNearest_of_exactValue? rfl).eq
      (Binary64.isNearest_of_exactValue? rfl)⟩
  · refine .inr ⟨?_, parse_textOf_scientific fun h => hbefore h.1⟩
    rintro ⟨q, hq, ⟨n, rfl⟩ | hlarge⟩
    · rw [Binary64.toInt?_eq_some_iff.mpr hq] at h
      exact Option.some_ne_none n h
    · rw [← Option.some.inj hq, hsize] at hlarge
      exact hbefore (hposition.mpr hlarge)

/-- A number that can be typed in is read from what is shown for it; of any other number a string is
read. -/
theorem parse_display_number (x : Binary64) :
    (number x).IsTypeable ∧ (parse (number x).display).Agrees (number x) ∨
      ¬ (number x).IsTypeable ∧ parse (number x).display = .string (number x).display := by
  cases hinteger : x.toInt? with
  | some n =>
      exact .inl ⟨⟨n, Binary64.toInt?_eq_some_iff.mp hinteger, .inl ⟨n, rfl⟩⟩,
        agrees_parse_display_of_toInt? hinteger⟩
  | none =>
      have hshown : (number x).display = x.shown := by simp only [display, hinteger]
      rw [hshown]
      cases x with
      | infinite negative =>
          refine .inr ⟨fun ⟨_, h, _⟩ => (nomatch h), ?_⟩
          cases negative <;> decide +kernel
      | nan => exact .inr ⟨fun ⟨_, h, _⟩ => (nomatch h), by decide +kernel⟩
      | finite negative exponent fraction => exact parse_shown_finite hinteger

/-- What is shown for a literal other than a string is read as a literal of the same type and with
an equal value exactly if the literal has a form in which it can be typed in; otherwise what is
shown is read as a string. -/
theorem parse_display_agrees_iff {source : Text} (hsource : ∀ s, parse source ≠ .string s) :
    ((parse (parse source).display).Agrees (parse source) ↔ (parse source).IsTypeable) ∧
    (¬ (parse source).IsTypeable →
      parse (parse source).display = .string (parse source).display) := by
  cases hv : parse source with
  | string s => exact absurd hv (hsource s)
  | number x =>
      rcases parse_display_number x with ⟨htypeable, hagrees⟩ | ⟨huntypeable, hstring⟩
      · exact ⟨⟨fun _ => htypeable, fun _ => hagrees⟩, fun h => absurd htypeable h⟩
      · refine ⟨⟨fun hagrees => ?_, fun h => absurd h huntypeable⟩, fun _ => hstring⟩
        rw [hstring] at hagrees
        exact absurd hagrees (not_agrees_string _ x)
  | bool b =>
      have hagrees : (parse (bool b).display).Agrees (bool b) := by cases b <;> exact ⟨rfl, rfl⟩
      exact ⟨⟨fun _ => trivial, fun _ => hagrees⟩, fun h => absurd trivial h⟩
  | null => exact ⟨⟨fun _ => trivial, fun _ => ⟨rfl, rfl⟩⟩, fun h => absurd trivial h⟩

/-- An integer that is written with a point is shown without it. -/
theorem parse_display_agrees_integer :
    (parse "2000.0").display = "2000" ∧ (parse "2000").Agrees (parse "2000.0") := by
  have hread : parse "2000.0" =
      .number (.finite false ⟨1033, by decide⟩ ⟨4292493394837504, by decide⟩) := by decide +kernel
  have hdisplay : (parse "2000.0").display = "2000" := by decide +kernel
  have hinteger :
      Binary64.toInt? (.finite false ⟨1033, by decide⟩ ⟨4292493394837504, by decide⟩) =
        some 2000 := by decide +kernel
  have htypeable : (parse "2000.0").IsTypeable := by
    rw [hread]
    exact ⟨_, Binary64.toInt?_eq_some_iff.mp hinteger, .inl ⟨2000, rfl⟩⟩
  have hliteral : ∀ s, parse "2000.0" ≠ .string s := by
    rw [hread]
    nofun
  obtain ⟨hiff, -⟩ := parse_display_agrees_iff hliteral
  have hagrees := hiff.mpr htypeable
  rw [hdisplay] at hagrees
  exact ⟨hdisplay, hagrees⟩

/-- A hundred-thousandth is shown with a power of ten, which is read as a string, and so is the name
that is shown for a number out of range. -/
theorem exists_literal_not_read_again :
    (parse "0.00001").display = "1e-05" ∧ parse "1e-05" = .string "1e-05" ∧
    (parse (List.replicate 309 '9')).display = "inf" ∧ parse "inf" = .string "inf" ∧
    ¬ ∀ source, (∀ s, parse source ≠ .string s) →
      (parse (parse source).display).Agrees (parse source) := by
  have hread : parse "0.00001" =
      .number (.finite false ⟨1006, by decide⟩ ⟨1399358476216561, by decide⟩) := by decide +kernel
  have hdisplay : (parse "0.00001").display = "1e-05" := by decide +kernel
  have hstring : parse "1e-05" = .string "1e-05" := by decide +kernel
  refine ⟨hdisplay, hstring, by decide +kernel, by decide +kernel, fun hall => ?_⟩
  have hagrees := hall "0.00001" (by rw [hread]; nofun)
  rw [hdisplay, hstring, hread] at hagrees
  exact not_agrees_string _ _ hagrees

end Literal

end ContentQuery
