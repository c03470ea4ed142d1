import ContentQuery.Text.Utf8

/-!
# ContentQuery.Text.Percent

Texts in which a percent sign and two digits of base sixteen stand for an octet.

Each run of ASCII is read as octets of UTF-8; octets that are no UTF-8 come out as the replacement
character. A percent sign without two digits after it stands for itself.
-/

namespace ContentQuery.Percent

/-- Whether a code point belongs to ASCII. -/
def isAscii (c : CodePoint) : Bool := c.val < 0x80

/-- The octet that a percent sign and two digits at the front of a text stand for. -/
def escaped? : Text → Option UInt8
  | percent :: a :: b :: _ => do
    guard (percent = '%')
    return (16 * (← a.hexDigit?) + (← b.hexDigit?)).toUInt8
  | _ => none

/-- The octets that a run of ASCII stands for; `covered` is the number of digits of the current
octet that are still to come. -/
def octetsFrom (covered : Nat) : Text → List UInt8
  | [] => []
  | c :: rest =>
    match covered with
    | more + 1 => octetsFrom more rest
    | 0 =>
      match escaped? (c :: rest) with
      | some octet => octet :: octetsFrom 2 rest
      | none => c.val.toUInt8 :: octetsFrom 0 rest

/-- The octets that a run of ASCII stands for. -/
def octets (run : Text) : List UInt8 := octetsFrom 0 run

/-- A run of code points that all belong to ASCII, or all do not, with its octets decoded. -/
def decodeRun (run : Text) : Text :=
  if run.all isAscii then Utf8.decodeMended (octets run) else run

/-- A text with its octets decoded. -/
def decode (s : Text) : Text := (s.splitBy fun a b => isAscii a == isAscii b).flatMap decodeRun

/-! ## Fields -/

/-- A name or value of a field: a plus sign stands for a space. -/
def decodeField (s : Text) : Text :=
  decode (s.map fun (c : CodePoint) => if c = '+' then .ofChar ' ' else c)

/-- Reads a field: a name and, after an equals sign, a value, which is not empty. -/
def field? (s : Text) : Option (Text × Text) :=
  match s.dropWhile fun (c : CodePoint) => c ≠ '=' with
  | _ :: c :: value =>
    some (decodeField (s.takeWhile fun (c : CodePoint) => c ≠ '='), decodeField (c :: value))
  | _ => none

/-- The fields between ampersands. What is no field is left out. -/
def fields (s : Text) : List (Text × Text) := (Text.splitOn '&' s).filterMap field?

end ContentQuery.Percent
