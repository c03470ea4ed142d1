/-!
# ContentQuery.Binary64

Numbers in the binary interchange format with 64 bits, computed with exact integers.

Every finite number of the format is an integer multiple of the smallest positive one, 2^-1074.
Magnitudes are counted in that unit: comparing two numbers is comparing two integers, and rounding
is choosing one of the representable multiples.
-/

namespace ContentQuery

/-- A number of the format. The fields of a finite number are those of its bit pattern, so every
value of the type is representable. -/
inductive Binary64 where
  | finite (negative : Bool) (exponent : Fin 2047) (fraction : Fin 4503599627370496)
  | infinite (negative : Bool)
  | nan
  deriving DecidableEq

namespace Binary64

/-! ## Values -/

/-- The unit divides one this many times over: 2^1074. -/
def unitsPerOne : Nat := Nat.pow 2 1074

/-- The magnitude of a finite number in units. -/
def magnitude (exponent : Fin 2047) (fraction : Fin 4503599627370496) : Nat :=
  if exponent.val = 0 then fraction.val
  else (Nat.pow 2 52 + fraction.val) * Nat.pow 2 (exponent.val - 1)

/-- A magnitude with its sign. -/
def signed (negative : Bool) (units : Nat) : Int := if negative then -units else units

/-- The place of a number on the extended line, in units: an infinity lies just beyond the largest
finite numbers, and no place is given to a NaN. -/
def place? : Binary64 → Option Int
  | finite negative exponent fraction => some (signed negative (magnitude exponent fraction))
  | infinite negative => some (signed negative (Nat.pow 2 2098))
  | nan => none

/-- Both numbers have a place and the places compare as `order` says. -/
def related (order : Int → Int → Bool) (x y : Binary64) : Bool :=
  match x.place?, y.place? with
  | some a, some b => order a b
  | _, _ => false

/-- Equality of values: the two zeros are equal, and a NaN equals nothing. -/
def eq (x y : Binary64) : Bool := related (fun a b => decide (a = b)) x y

@[inherit_doc related]
def lt (x y : Binary64) : Bool := related (fun a b => decide (a < b)) x y

@[inherit_doc related]
def le (x y : Binary64) : Bool := related (fun a b => decide (a ≤ b)) x y

def isNaN : Binary64 → Bool
  | nan => true
  | _ => false

/-- Zero; there is one with either sign. -/
def zero (negative : Bool) : Binary64 := finite negative ⟨0, by decide⟩ ⟨0, by decide⟩

/-! ## Rounding -/

/-- The integer nearest to `num / den`; halfway it is the even one. -/
def roundHalfEven (num den : Nat) : Nat :=
  let q := num / den
  let twice := 2 * (num % den)
  if twice < den then q else if den < twice then q + 1 else q + q % 2

/-- The number with a representable magnitude, or an infinity if the magnitude is out of range. -/
def ofUnits (negative : Bool) (units : Nat) : Binary64 :=
  let fraction (n : Nat) : Fin 4503599627370496 := ⟨n % 4503599627370496, Nat.mod_lt _ (by decide)⟩
  if units < Nat.pow 2 52 then finite negative ⟨0, by decide⟩ (fraction units)
  else
    let shift := units.log2 - 52
    if h : shift + 1 < 2047 then
      finite negative ⟨shift + 1, h⟩ (fraction (units / Nat.pow 2 shift))
    else infinite negative

/-- The number nearest to `num / den`; halfway it is the one with the even last digit, and from half
a step beyond the largest finite number on it is an infinity. -/
def ofRatio (negative : Bool) (num den : Nat) : Binary64 :=
  let scaled := num * unitsPerOne
  let shift := (scaled / den).log2 - 52
  ofUnits negative (roundHalfEven scaled (den * Nat.pow 2 shift) * Nat.pow 2 shift)

/-- The number nearest to an integer; an infinity if the integer is out of range. -/
def ofInt (n : Int) : Binary64 := ofRatio (n < 0) n.natAbs 1

/-- The integer that a finite number is, if it is one. -/
def toInt? : Binary64 → Option Int
  | finite negative exponent fraction =>
    let units := magnitude exponent fraction
    if units % unitsPerOne = 0 then some (signed negative (units / unitsPerOne)) else none
  | _ => none

/-! ## Bits -/

/-- The bit pattern, as a number of 64 bits: sign, exponent, fraction. -/
def toBits : Binary64 → Nat
  | finite negative exponent fraction =>
    (if negative then Nat.pow 2 63 else 0) + exponent.val * Nat.pow 2 52 + fraction.val
  | infinite negative => (if negative then Nat.pow 2 63 else 0) + 2047 * Nat.pow 2 52
  | nan => 2047 * Nat.pow 2 52 + Nat.pow 2 51

end Binary64

end ContentQuery
