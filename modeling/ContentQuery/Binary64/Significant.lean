import ContentQuery.Binary64.Shortest

/-!
# ContentQuery.Binary64.Significant

The text of a number with at most fifteen significant digits, the form in which a column of texts
keeps a number. It need not read back as the same number.
-/

namespace ContentQuery.Binary64

/-- The number of significant digits. -/
def significantCount : Nat := 15

/-- The power of ten of the first digit of a positive magnitude. -/
def leadingPower (units : Nat) : Int :=
  if unitsPerOne ≤ units then (Nat.toDigits 10 (units / unitsPerOne)).length - 1
  else -(Nat.toDigits 10 ((unitsPerOne - 1) / units)).length

/-- The significant digits of a positive magnitude, a half rounded up, and the power of ten of the
first of them. Rounding may carry into one more digit. -/
def significantDigits (units : Nat) : Text × Int :=
  let power := leadingPower units
  let (num, den) := scaledTo units (power - (significantCount - 1))
  let digits := Text.ofNat ((2 * num + den) / (2 * den))
  let power := if significantCount < digits.length then power + 1 else power
  ((digits.reverse.dropWhile fun (c : CodePoint) => c = '0').reverse, power)

/-- The digits with the point after the first, always with a digit after the point, and the power of
ten. -/
def scientificWithPoint (digits : Text) (power : Int) : Text :=
  let fraction : Text := match digits.tail with
    | [] => "0"
    | rest => rest
  scientific (digits.take 1 ++ fraction) power

/-- The text of a positive magnitude: positional from 10^-4 up to below 10^15. -/
def textOfSignificant (units : Nat) : Text :=
  let (digits, power) := significantDigits units
  if -4 ≤ power ∧ power < significantCount then positional digits (power + 1)
  else scientificWithPoint digits power

/-- The text that a column keeps; there is none for a NaN. -/
def columnText? : Binary64 → Option Text
  | finite negative exponent fraction =>
    let units := magnitude exponent fraction
    if units = 0 then some "0.0"
    else some ((if negative then "-" else "") ++ textOfSignificant units)
  | infinite negative => some (if negative then "-Inf" else "Inf")
  | nan => none

end ContentQuery.Binary64
