import ContentQuery.Proofs.JsonReading
import ContentQuery.Proofs.Nearest
import ContentQuery.Proofs.WrittenLiteral

/-!
# ContentQuery.Proofs.JsonNumeral

Numerals of JSON as they are written. Reading a number is reading a numeral and converting it: to an
integer, to an infinity where it has too many digits for that, or as a decimal. However it is
converted, it is compared as the number nearest to its exact value.
-/

namespace ContentQuery.Json

/-! ## Numerals -/

/-- The power of ten at the end of a numeral: a mark, which may be a capital, a sign, which may be
left out and is minus if true, and digits. -/
structure Power where
  capital : Bool
  sign : Option Bool
  digits : Text
  isDigits_digits : Decimal.isDigits digits = true

namespace Power

def signText : Option Bool → Text
  | none => []
  | some true => ['-']
  | some false => ['+']

def text (p : Power) : Text :=
  (if p.capital then 'E' else 'e' : Char) :: (signText p.sign ++ p.digits)

def value (p : Power) : Int :=
  if p.sign.getD false then -(Text.digitsValue p.digits : Int) else Text.digitsValue p.digits

end Power

/-- A numeral of JSON: its digits do not begin with a zero, unless it is the only one before the
point, and a power of ten may follow. -/
structure Numeral where
  mantissa : WrittenNumeral
  power : Option Power
  isWhole : IsWhole mantissa.whole

namespace Numeral

def powerText : Option Power → Text
  | none => []
  | some power => power.text

def text (n : Numeral) : Text := n.mantissa.text ++ powerText n.power

/-- The number that a numeral denotes. -/
def decimal (n : Numeral) : Decimal where
  negative := n.mantissa.negative
  coefficient := n.mantissa.decimal.coefficient
  exponent := n.mantissa.decimal.exponent + (n.power.map Power.value).getD 0

/-- What a numeral is converted to. Without point and power it is an integer, if it has not too many
digits for that. -/
def value (n : Numeral) : Json :=
  if n.mantissa.fraction.isNone && n.power.isNone then
    if n.mantissa.whole.length ≤ maxDigits then
      let k : Int := Text.digitsValue n.mantissa.whole
      .int (if n.mantissa.negative then -k else k)
    else .float (.infinite n.mantissa.negative)
  else .float n.decimal.toBinary64

end Numeral

/-! ## Reading numerals -/

theorem isDigits_of_not_isEmpty {s : Text} (hne : ¬ s.isEmpty = true)
    (h : ∀ c ∈ s, c.isDigit = true) : Decimal.isDigits s = true := by
  rw [Decimal.isDigits, Bool.and_eq_true, Bool.not_eq_true']
  exact ⟨Bool.eq_false_iff.mpr hne, List.all_eq_true.mpr h⟩

theorem isDigit_of_mem_takeWhile (s : Text) :
    ∀ c ∈ s.takeWhile CodePoint.isDigit, c.isDigit = true :=
  List.all_eq_true.mp List.all_takeWhile

/-- The sign of a power as it is written. -/
def splitPowerSign : Text → Option Bool × Text
  | [] => (none, [])
  | c :: rest =>
    if c = '-' then (some true, rest) else if c = '+' then (some false, rest) else (none, c :: rest)

/-- The power at the end of a numeral as it is written, if there is one. -/
def splitPower : Text → Option Power × Text
  | [] => (none, [])
  | c :: rest =>
    if c = 'e' || c = 'E' then
      let (sign, unsigned) := splitPowerSign rest
      if h : (unsigned.takeWhile CodePoint.isDigit).isEmpty then (none, c :: rest)
      else
        (some ⟨c = 'E', sign, unsigned.takeWhile CodePoint.isDigit,
          isDigits_of_not_isEmpty h (isDigit_of_mem_takeWhile unsigned)⟩,
          unsigned.dropWhile CodePoint.isDigit)
    else (none, c :: rest)

/-- Digits behind a point; without digits there is no point. -/
def fractionOf (digits : Text) : Option Text := if digits.isEmpty then none else some digits

/-- A whole part and what is left behind it make up the text. -/
theorem splitWhole_eq_some {s whole rest : Text} (h : splitWhole s = some (whole, rest)) :
    IsWhole whole ∧ whole ++ rest = s := by
  have hdigits := (splitWhole_ok h).2
  cases s with
  | nil => contradiction
  | cons c s =>
      rw [splitWhole] at h
      split at h
      · next hzero =>
          obtain ⟨rfl, rfl⟩ := Prod.mk.inj (Option.some.inj h)
          exact ⟨⟨hdigits, .inl (by rw [hzero])⟩, rfl⟩
      · next hzero =>
          split at h
          · obtain ⟨rfl, rfl⟩ := Prod.mk.inj (Option.some.inj h)
            refine ⟨⟨hdigits, .inr ⟨List.cons_ne_nil _ _, ?_⟩⟩, ?_⟩
            · rw [List.head?_cons, ne_eq, Option.some.injEq]
              exact hzero
            · rw [List.cons_append, List.takeWhile_append_dropWhile]
          · contradiction

/-- A whole part consists of digits, one at least. -/
theorem IsWhole.isDigits {whole : Text} (h : IsWhole whole) : Decimal.isDigits whole = true := by
  refine isDigits_of_not_isEmpty ?_ h.digits
  rcases h.leading with rfl | ⟨hne, -⟩
  · decide
  · simpa using hne

theorem isDigit_of_mem_splitFraction (s : Text) : ∀ c ∈ (splitFraction s).1, c.isDigit = true := by
  cases s with
  | nil => exact List.forall_mem_nil _
  | cons c rest =>
      rw [splitFraction]
      split
      · exact isDigit_of_mem_takeWhile rest
      · exact List.forall_mem_nil _

/-- A fraction, if there is one, consists of digits, one at least. -/
theorem isDigits_of_mem_fractionOf {s : Text} (h : ∀ c ∈ s, c.isDigit = true) :
    ∀ digits ∈ fractionOf s, Decimal.isDigits digits = true := by
  intro digits hdigits
  rw [fractionOf] at hdigits
  split at hdigits
  · contradiction
  · next hne =>
      rw [← Option.mem_some_iff.mp hdigits]
      exact isDigits_of_not_isEmpty hne h

/-- The numeral with a sign and a whole part, from the text behind these. -/
def numeralWith (negative : Bool) {whole : Text} (hwhole : IsWhole whole) (s : Text) :
    Numeral × Text :=
  let (power, rest) := splitPower (splitFraction s).2
  (⟨⟨negative, whole, fractionOf (splitFraction s).1, hwhole.isDigits,
    isDigits_of_mem_fractionOf (isDigit_of_mem_splitFraction s)⟩, power, hwhole⟩, rest)

/-- Reads a numeral after its sign. -/
def readUnsignedNumeral (negative : Bool) : Read Numeral := fun s =>
  match h : splitWhole s with
  | none => .error .malformed
  | some (_, rest) => .ok (numeralWith negative (splitWhole_eq_some h).1 rest)

/-- Reads a numeral. -/
def readNumeral : Read Numeral
  | [] => .error .malformed
  | c :: rest =>
    if c = '-' then readUnsignedNumeral true rest else readUnsignedNumeral false (c :: rest)

/-- The sign of an exponent and what is left behind it make up the text. -/
theorem signText_splitPowerSign (s : Text) :
    Power.signText (splitPowerSign s).1 ++ (splitPowerSign s).2 = s := by
  cases s with
  | nil => rfl
  | cons c rest =>
      rw [splitPowerSign]
      split
      · next h => rw [h]; rfl
      · split
        · next h => rw [h]; rfl
        · rfl

/-- Whether there is a minus is all that a sign says. -/
theorem splitSign_eq (s : Text) :
    splitSign s = ((splitPowerSign s).1.getD false, (splitPowerSign s).2) := by
  cases s with
  | nil => rfl
  | cons c rest =>
      rw [splitSign, splitPowerSign]
      split
      · rfl
      · split <;> rfl

/-- The value of an exponent is that of its sign and digits. -/
theorem splitExponent_eq (s : Text) :
    splitExponent s = ((splitPower s).1.map Power.value, (splitPower s).2) := by
  cases s with
  | nil => rfl
  | cons c rest =>
      rw [splitExponent, splitPower]
      split
      · simp only [splitSign_eq]
        split <;> rfl
      · rfl

/-- An exponent as it is written and what is left behind it make up the text. -/
theorem powerText_splitPower (s : Text) :
    Numeral.powerText (splitPower s).1 ++ (splitPower s).2 = s := by
  cases s with
  | nil => rfl
  | cons c rest =>
      rw [splitPower]
      split
      · next hmark =>
          simp only
          split
          · rfl
          · have hsign := signText_splitPowerSign rest
            have hcapital :
                ((if decide (c = 'E') = true then 'E' else 'e' : Char) : CodePoint) = c := by
              rw [Bool.or_eq_true, decide_eq_true_eq, decide_eq_true_eq] at hmark
              rcases hmark with rfl | rfl <;> rfl
            simp only [Numeral.powerText, Power.text, hcapital, List.cons_append, List.append_assoc,
              List.takeWhile_append_dropWhile, hsign]
      · rfl

/-- A fraction as it is written and what is left behind it make up the text. -/
theorem fractionText_splitFraction (s : Text) :
    WrittenNumeral.fractionText (fractionOf (splitFraction s).1) ++ (splitFraction s).2 = s := by
  cases s with
  | nil => rfl
  | cons c rest =>
      rw [splitFraction]
      split
      · next h =>
          rw [Bool.and_eq_true, decide_eq_true_eq, Bool.not_eq_true'] at h
          rw [fractionOf, h.2, if_neg (by decide), WrittenNumeral.fractionText, h.1,
            List.cons_append, List.takeWhile_append_dropWhile]
      · rfl

theorem readUnsignedNumeral_of_none (negative : Bool) {s : Text} (h : splitWhole s = none) :
    readUnsignedNumeral negative s = .error .malformed := by
  unfold readUnsignedNumeral
  split
  · rfl
  · next h' =>
      rw [h] at h'
      contradiction

theorem readUnsignedNumeral_of_some (negative : Bool) {s whole rest : Text}
    (h : splitWhole s = some (whole, rest)) :
    readUnsignedNumeral negative s = .ok (numeralWith negative (splitWhole_eq_some h).1 rest) := by
  unfold readUnsignedNumeral
  split
  · next h' =>
      rw [h] at h'
      contradiction
  · next h' =>
      obtain ⟨rfl, rfl⟩ := Prod.mk.inj (Option.some.inj (h.symm.trans h'))
      rfl

/-- A numeral as it is written and what is left behind it make up the text. -/
theorem text_numeralWith (negative : Bool) {whole : Text} (hwhole : IsWhole whole) (s : Text) :
    (numeralWith negative hwhole s).1.mantissa.unsigned ++
      (Numeral.powerText (numeralWith negative hwhole s).1.power ++
        (numeralWith negative hwhole s).2) = whole ++ s := by
  change whole ++ WrittenNumeral.fractionText (fractionOf (splitFraction s).1) ++
    (Numeral.powerText (splitPower (splitFraction s).2).1 ++ (splitPower (splitFraction s).2).2) = _
  rw [powerText_splitPower, List.append_assoc, fractionText_splitFraction]

/-- A numeral that is read is the text that has been read, and has the sign that was given. -/
theorem readUnsignedNumeral_eq_ok {negative : Bool} {s rest : Text} {n : Numeral}
    (h : readUnsignedNumeral negative s = .ok (n, rest)) :
    n.mantissa.negative = negative ∧
      n.mantissa.unsigned ++ (Numeral.powerText n.power ++ rest) = s := by
  cases hsplit : splitWhole s with
  | none =>
      rw [readUnsignedNumeral_of_none negative hsplit] at h
      contradiction
  | some found =>
      rw [readUnsignedNumeral_of_some negative hsplit] at h
      have htext := text_numeralWith negative (splitWhole_eq_some hsplit).1 found.2
      rw [Except.ok.inj h, (splitWhole_eq_some hsplit).2] at htext
      have hsign :
          (numeralWith negative (splitWhole_eq_some hsplit).1 found.2).1.mantissa.negative =
            negative := rfl
      rw [Except.ok.inj h] at hsign
      exact ⟨hsign, htext⟩

/-- A numeral is what stands in the text. -/
theorem readNumeral_eq_ok {s rest : Text} {n : Numeral} (h : readNumeral s = .ok (n, rest)) :
    n.text ++ rest = s := by
  cases s with
  | nil => contradiction
  | cons c s =>
      rw [readNumeral] at h
      rw [Numeral.text, List.append_assoc, WrittenNumeral.text]
      split at h
      · next hminus =>
          obtain ⟨hsign, htext⟩ := readUnsignedNumeral_eq_ok h
          rw [if_pos hsign, hminus, List.cons_append, htext]
      · obtain ⟨hsign, htext⟩ := readUnsignedNumeral_eq_ok h
        rw [hsign]
        exact htext

/-- An integer of too many digits is infinite in a content. -/
theorem integer_content (negative : Bool) (digits : Text) :
    integer .content negative digits =
      .ok (if digits.length ≤ maxDigits then
        .int (if negative then -(Text.digitsValue digits : Int) else Text.digitsValue digits)
      else .float (.infinite negative)) := by
  rw [integer]
  split <;> rfl

theorem getD_fractionOf (digits : Text) : (fractionOf digits).getD [] = digits := by
  cases digits <;> rfl

theorem isNone_fractionOf (digits : Text) : (fractionOf digits).isNone = digits.isEmpty := by
  cases digits <;> rfl

/-- Reading a number is reading a numeral and converting it. -/
theorem readUnsigned_eq_map (negative : Bool) (s : Text) :
    readUnsigned .content negative s =
      (readUnsignedNumeral negative s).map (Prod.map Numeral.value id) := by
  cases hsplit : splitWhole s with
  | none =>
      rw [readUnsigned, hsplit, readUnsignedNumeral_of_none negative hsplit]
      rfl
  | some found =>
      obtain ⟨whole, rest⟩ := found
      rw [readUnsigned, hsplit, readUnsignedNumeral_of_some negative hsplit]
      simp only [splitExponent_eq, numeralWith, Except.map, Prod.map, Numeral.value,
        isNone_fractionOf, Option.isNone_map]
      split
      · rw [integer_content]
        rfl
      · simp only [Decimal.ofDigits, Numeral.decimal, WrittenNumeral.decimal, getD_fractionOf]
        rw [Int.sub_eq_add_neg, Int.add_comm]
        rfl

/-- A number is read as the value of the numeral that is written there. -/
theorem readNumber_eq_map (s : Text) :
    readNumber .content s = (readNumeral s).map (Prod.map Numeral.value id) := by
  cases s with
  | nil => rfl
  | cons c s =>
      rw [readNumber, readNumeral]
      split
      · exact readUnsigned_eq_map true s
      · exact readUnsigned_eq_map false (c :: s)

/-! ## Exact values -/

/-- The number as which a value is compared. -/
def number? : Json → Option Binary64
  | int n => some (.ofInt n)
  | float x => some x
  | _ => none

/-- Digits that do not begin with a zero denote at least the power of ten with as many digits. -/
theorem tenPow_le_digitsValue {c : CodePoint} {digits : Text} (hwhole : IsWhole (c :: digits))
    (hlong : digits ≠ []) : 10 ^ digits.length ≤ Text.digitsValue (c :: digits) := by
  have hdigit := CodePoint.isDigit_iff.mp (hwhole.digits c List.mem_cons_self)
  have hzero : c ≠ '0' := by
    rcases hwhole.leading with hzero | ⟨-, hhead⟩
    · exact absurd (List.cons.inj hzero).2 hlong
    · exact fun hzero => hhead (by rw [hzero, List.head?_cons])
  have hval : c.val ≠ 48 := fun h => hzero (Fin.ext h)
  have hfirst : 1 ≤ Text.digitsValue [c] := by
    simp only [Text.digitsValue, List.foldl_cons, List.foldl_nil, CodePoint.digit]
    omega
  have happend := Text.digitsValue_append [c] digits
  rw [List.singleton_append] at happend
  rw [happend]
  calc 10 ^ digits.length = 1 * 10 ^ digits.length := (Nat.one_mul _).symm
    _ ≤ Text.digitsValue [c] * 10 ^ digits.length := Nat.mul_le_mul_right _ hfirst
    _ ≤ _ := Nat.le_add_right _ _

/-- An integer with too many digits is far beyond the range of the binary format. -/
theorem ofRatio_of_long {whole : Text} (hwhole : IsWhole whole) (hlong : maxDigits < whole.length)
    (negative : Bool) :
    Binary64.ofRatio negative (Text.digitsValue whole) 1 = .infinite negative := by
  cases whole with
  | nil => contradiction
  | cons c digits =>
      have hcount : maxDigits ≤ digits.length := Nat.le_of_lt_succ hlong
      have hne : digits ≠ [] := by
        rintro rfl
        contradiction
      apply Binary64.ofRatio_eq_infinite negative (k := 3 * digits.length)
      · unfold maxDigits at hcount
        omega
      · exact (Decimal.twoPow_le_tenPow _).trans (tenPow_le_digitsValue hwhole hne)

namespace Numeral

/-- Without point and power the exact value is the integer that the digits denote. -/
theorem exactValue_of_whole {n : Numeral} (hfraction : n.mantissa.fraction = none)
    (hpower : n.power = none) : n.decimal.exactValue =
      Binary64.exactSigned n.mantissa.negative (Text.digitsValue n.mantissa.whole) := by
  simp [decimal, WrittenNumeral.decimal, Decimal.exactValue, hfraction, hpower]

/-- Whatever a numeral is converted to is compared as the number nearest to its exact value. -/
theorem exists_isNearest (n : Numeral) :
    ∃ x, n.value.number? = some x ∧ x.IsNearest n.decimal.exactValue := by
  rw [value]
  split
  · next hwhole =>
      rw [Bool.and_eq_true, Option.isNone_iff_eq_none, Option.isNone_iff_eq_none] at hwhole
      rw [exactValue_of_whole hwhole.1 hwhole.2]
      split
      · refine ⟨_, rfl, ?_⟩
        have hvalue : Binary64.exactSigned n.mantissa.negative
            (Text.digitsValue n.mantissa.whole) =
            ((if n.mantissa.negative then -(Text.digitsValue n.mantissa.whole : Int)
              else Text.digitsValue n.mantissa.whole : Int) : ℚ) := by
          rw [Binary64.exactSigned]
          split <;> push_cast <;> rfl
        rw [hvalue]
        exact Binary64.isNearest_ofInt _
      · next hlong =>
          refine ⟨_, rfl, ?_⟩
          rw [← ofRatio_of_long n.isWhole (Nat.lt_of_not_le hlong)]
          have h := Binary64.isNearest_ofRatio n.mantissa.negative
            (Text.digitsValue n.mantissa.whole) Nat.one_pos
          rwa [Nat.cast_one, div_one] at h
  · exact ⟨_, rfl, n.decimal.isNearest_toBinary64⟩

end Numeral

end ContentQuery.Json
