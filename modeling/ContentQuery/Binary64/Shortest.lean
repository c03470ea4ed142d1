import ContentQuery.Decimal

/-!
# ContentQuery.Binary64.Shortest

The shortest decimal that reads back as a given number, and the text of it.

A grid is the set of integer multiples of one power of ten. The shortest decimal lies on the
coarsest grid that has a point reading back as the number, and if a grid has such a point, one of
the number's two neighbours on the grid is one.
-/

namespace ContentQuery.Binary64

/-! ## The decimal -/

/-- The magnitude of `units` as a fraction of integers, in multiples of `10^exponent`. -/
def scaledTo (units : Nat) : (exponent : Int) → Nat × Nat
  | .ofNat e => (units, unitsPerOne * Nat.pow 10 e)
  | .negSucc e => (units * Nat.pow 10 (e + 1), unitsPerOne)

/-- The decimal on the grid of `10^exponent` that reads back as the number of these units, the
nearer one if both neighbours do; halfway it is the even one. -/
def onGrid? (negative : Bool) (units : Nat) (exponent : Int) : Option Decimal :=
  let number := ofUnits negative units
  let (num, den) := scaledTo units exponent
  let below : Decimal := ⟨negative, num / den, exponent⟩
  let above : Decimal := ⟨negative, num / den + 1, exponent⟩
  let nearest : Decimal := ⟨negative, roundHalfEven num den, exponent⟩
  if nearest.toBinary64 = number then some nearest
  else if below.toBinary64 = number then some below
  else if above.toBinary64 = number then some above
  else none

/-- Tries ever finer grids; if none of them will do, the exact value is taken. -/
def searchFrom (negative : Bool) (units : Nat) : (grids : Nat) → (exponent : Int) → Decimal
  | 0, _ => ⟨negative, units * Nat.pow 5 1074, -1074⟩
  | grids + 1, exponent =>
    match onGrid? negative units exponent with
    | some d => d
    | none => searchFrom negative units grids (exponent - 1)

/-- The shortest decimal that reads back as the number with these units. The first grid tried is
coarser than the number itself: `10^exponent` exceeds its magnitude. -/
def shortest (negative : Bool) (units : Nat) : Decimal :=
  searchFrom negative units 40 (((units.log2 : Int) - 1074) * 3 / 10 + 2)

/-! ## The text -/

/-- The digits with the point after the first `before` of them, where `before` may lie outside. -/
def positional (digits : Text) (before : Int) : Text :=
  if before ≤ 0 then "0." ++ List.replicate before.natAbs ('0' : CodePoint) ++ digits
  else if digits.length ≤ before then
    digits ++ List.replicate (before.toNat - digits.length) ('0' : CodePoint) ++ ".0"
  else digits.take before.toNat ++ "." ++ digits.drop before.toNat

/-- The digits with the point after the first, and a power of ten with at least two digits. -/
def scientific (digits : Text) (power : Int) : Text :=
  let mantissa := match digits with
    | [] => []
    | [d] => [d]
    | d :: rest => d :: '.' :: rest
  mantissa ++ (if power < 0 then "e-" else "e+") ++ Text.ofNatPadded 2 power.natAbs

/-- The text of a decimal. It is positional from 10^-4 up to below 10^16, and then has a point;
beyond it is scientific. -/
def textOf (d : Decimal) : Text :=
  let digits := Text.ofNat d.coefficient
  let before : Int := digits.length + d.exponent
  (if d.negative then "-" else "") ++
    if -4 < before ∧ before ≤ 16 then positional digits before
    else scientific digits (before - 1)

/-- The shortest text that reads back as the number; the names of the numbers without digits are
those of `names`: not a number, and the infinity. -/
def toText (names : String × String) : Binary64 → Text
  | finite negative exponent fraction =>
    let units := magnitude exponent fraction
    if units = 0 then (if negative then "-0.0" else "0.0")
    else textOf (shortest negative units)
  | infinite negative => (if negative then "-" else "") ++ (names.2 : Text)
  | nan => names.1

/-- The text of a number in messages. -/
def shown (x : Binary64) : Text := x.toText ("nan", "inf")

end ContentQuery.Binary64
