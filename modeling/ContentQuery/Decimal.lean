import ContentQuery.Binary64
import ContentQuery.Text

/-!
# ContentQuery.Decimal

Decimal numbers as they are written, with their exact value, and the number of the binary format
that is nearest to one.
-/

namespace ContentQuery

/-- The number `coefficient * 10^exponent` with a sign; minus zero is kept apart from zero. -/
structure Decimal where
  negative : Bool
  coefficient : Nat
  exponent : Int
  deriving DecidableEq

namespace Decimal

/-- The decimal of a numeral: the digits before and after the point make the coefficient, and each
digit after the point lowers the exponent by one. -/
def ofDigits (negative : Bool) (whole fraction : Text) (exponent : Int) : Decimal :=
  ⟨negative, Text.digitsValue (whole ++ fraction), exponent - fraction.length⟩

/-- The nearest number of the binary format. A decimal too large for it gives an infinity and one
below half its unit gives zero; both are told from the exponent alone where it is extreme. -/
def toBinary64 (d : Decimal) : Binary64 :=
  if d.coefficient = 0 then .zero d.negative
  else match d.exponent with
    | .ofNat e =>
      if 1024 ≤ 3 * e then .infinite d.negative
      else .ofRatio d.negative (d.coefficient * Nat.pow 10 e) 1
    | .negSucc e =>
      if d.coefficient.log2 + 1076 < 3 * (e + 1) then .zero d.negative
      else .ofRatio d.negative d.coefficient (Nat.pow 10 (e + 1))

/-! ## Numerals without exponent -/

/-- Whether a text is a nonempty run of decimal digits. -/
def isDigits (s : Text) : Bool := !s.isEmpty && s.all CodePoint.isDigit

/-- Reads an unsigned numeral: digits, which a point and more digits may follow. -/
def ofUnsigned? (negative : Bool) (s : Text) : Option Decimal :=
  let whole := s.takeWhile CodePoint.isDigit
  match s.dropWhile CodePoint.isDigit with
  | [] => if isDigits whole then some (ofDigits negative whole [] 0) else none
  | point :: fraction =>
    if point = '.' && isDigits whole && isDigits fraction then
      some (ofDigits negative whole fraction 0)
    else none

/-- Reads a numeral: an optional minus sign, digits, and optionally a point and more digits. -/
def ofNumeral? : Text → Option Decimal
  | [] => none
  | c :: rest => if c = '-' then ofUnsigned? true rest else ofUnsigned? false (c :: rest)

end Decimal

end ContentQuery
