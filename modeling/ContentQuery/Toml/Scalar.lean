import ContentQuery.Calendar
import ContentQuery.Decimal
import ContentQuery.Toml
import ContentQuery.Toml.Text

/-!
# ContentQuery.Toml.Scalar

Numbers, truth values, dates and times of TOML documents.
-/

namespace ContentQuery.Toml

/-! ## Dates and times -/

/-- The text after a number of exactly `count` digits that lies between two bounds. -/
def number? (count least most : Nat) (s : Text) : Option (Nat × Text) :=
  let digits := s.take count
  let n := Text.digitsValue digits
  if digits.length = count && digits.all CodePoint.isDigit && least ≤ n && n ≤ most then
    some (n, s.drop count)
  else none

/-- The text after a mark. -/
def after? (mark : CodePoint) : Text → Option Text
  | [] => none
  | c :: rest => if c = mark then some rest else none

/-- The text after a time of day. -/
def afterTime? (s : Text) : Option Text := do
  let (_, s) ← number? 2 0 23 s
  let (_, s) ← number? 2 0 59 (← after? ':' s)
  let (_, s) ← number? 2 0 59 (← after? ':' s)
  match after? '.' s with
  | some fraction =>
    match fraction.takeWhile CodePoint.isDigit with
    | [] => some s
    | _ :: _ => some (fraction.dropWhile CodePoint.isDigit)
  | none => some s

/-- The text after an offset from universal time. -/
def afterOffset? : Text → Option Text
  | [] => none
  | c :: rest =>
    if c = 'Z' || c = 'z' then some rest
    else if c = '+' || c = '-' then do
      let (_, s) ← number? 2 0 23 rest
      let (_, s) ← number? 2 0 59 (← after? ':' s)
      return s
    else none

/-- A date at the front, and the text after it. -/
def date? (s : Text) : Option (Date × Text) := do
  let (year, s) ← number? 4 0 9999 s
  let (month, s) ← number? 2 1 12 (← after? '-' s)
  let (day, s) ← number? 2 1 31 (← after? '-' s)
  return (⟨year, month, day⟩, s)

/-- The text after a time of day that follows a date, and after its offset; the text itself if no
time follows. -/
def afterDateTime (s : Text) : Text :=
  match s with
  | [] => s
  | c :: rest =>
    if c = 'T' || c = 't' || c = ' ' then
      match afterTime? rest with
      | some s => (afterOffset? s).getD s
      | none => s
    else s

/-- The moment whose text ends where the given rest begins. -/
def momentBefore (s rest : Text) : Value × Text := (.moment (s.take (s.length - rest.length)), rest)

/-- Reads a date, a time of day or both; none if there is neither. A date has to be in the
calendar. -/
def readMoment? (s : Text) : Option (Except ReadError (Value × Text)) :=
  match date? s with
  | some (date, rest) =>
    if date.isValid then some (.ok (momentBefore s (afterDateTime rest)))
    else some (.error .malformed)
  | none => (afterTime? s).map fun rest => .ok (momentBefore s rest)

/-! ## Numbers -/

/-- The digits at the front, and the text after them. Single underscores may stand
between digits. -/
def digitRun (isDigit : CodePoint → Bool) : Text → Text × Text
  | [] => ([], [])
  | c :: rest =>
    if isDigit c then
      let (digits, after) := digitRun isDigit rest
      (c :: digits, after)
    else if c = '_' && (rest.head?.map isDigit).getD false then digitRun isDigit rest
    else ([], c :: rest)

/-- A run of digits that begins with a digit. -/
def digitRun? (isDigit : CodePoint → Bool) (s : Text) : Option (Text × Text) :=
  if (s.head?.map isDigit).getD false then some (digitRun isDigit s) else none

/-- The digits of bases two, eight and sixteen, by the letter that announces the base. -/
def bases : List (CodePoint × Nat) := [('x', 16), ('b', 2), ('o', 8)]

/-- Whether a code point is a digit of a base. -/
def isDigitOf (base : Nat) (c : CodePoint) : Bool :=
  (c.hexDigit?.map fun d => decide (d < base)).getD false

/-- The number that digits of a base denote. -/
def valueIn (base : Nat) (digits : Text) : Nat :=
  digits.foldl (fun n c => base * n + c.hexDigit?.getD 0) 0

/-- Reads an integer in base two, eight or sixteen. -/
def based? (s : Text) : Option (Value × Text) := do
  let rest ← after? '0' s
  let letter ← rest.head?
  let (_, base) ← bases.find? fun entry => entry.1 = letter
  let (digits, after) ← digitRun? (isDigitOf base) rest.tail
  return (.integer (valueIn base digits), after)

/-- The sign at the front, minus being true, and the text after it. -/
def splitSign : Text → Bool × Text
  | [] => (false, [])
  | c :: rest =>
    if c = '-' then (true, rest) else if c = '+' then (false, rest) else (false, c :: rest)

/-- The digits before the point: a zero alone, or digits that do not begin with a zero. -/
def whole? (s : Text) : Option (Text × Text) :=
  match after? '0' s with
  | some rest => some ("0", rest)
  | none => digitRun? CodePoint.isDigit s

/-- The digits after a point, if there are any. -/
def fraction? (s : Text) : Option (Text × Text) := do
  digitRun? CodePoint.isDigit (← after? '.' s)

/-- The power of ten after its mark, if there is one. -/
def exponent? : Text → Option (Int × Text)
  | [] => none
  | c :: rest =>
    if c = 'e' || c = 'E' then do
      let (negative, rest) := splitSign rest
      let (digits, after) ← digitRun? CodePoint.isDigit rest
      let n : Int := Text.digitsValue digits
      return (if negative then -n else n, after)
    else none

/-- The most digits of a decimal integer that is converted. -/
def maxDigits : Nat := 4300

/-- Reads a decimal number; none if there is none. Without fraction and exponent it is
an integer. -/
def decimal? (s : Text) : Option (Except ReadError (Value × Text)) := do
  let (negative, unsigned) := splitSign s
  let (whole, rest) ← whole? unsigned
  let fraction := fraction? rest
  let rest := (fraction.map (·.2)).getD rest
  let exponent := exponent? rest
  let rest := (exponent.map (·.2)).getD rest
  if fraction.isNone && exponent.isNone then
    if maxDigits < whole.length then some (.error .longInteger)
    else
      let n : Int := Text.digitsValue whole
      some (.ok (.integer (if negative then -n else n), rest))
  else
    let digits := (fraction.map (·.1)).getD []
    let power := (exponent.map (·.1)).getD 0
    some (.ok (.float (Decimal.ofDigits negative whole digits power).toBinary64, rest))

/-- The values that are written as a name. -/
def names : List (Text × Value) :=
  [("true", .boolean true), ("false", .boolean false), ("inf", .float (.infinite false)),
    ("+inf", .float (.infinite false)), ("-inf", .float (.infinite true)), ("nan", .float .nan),
    ("+nan", .float .nan), ("-nan", .float .nan)]

/-- Reads a value that is written as a name. -/
def named? (s : Text) : Option (Value × Text) :=
  (names.find? fun name => name.1.isPrefixOf s).map fun (name, v) => (v, s.drop name.length)

/-- Reads a value that has no parts. -/
def readScalar (s : Text) : Except ReadError (Value × Text) :=
  match readString? s with
  | some read => read.map fun (t, rest) => (.string t, rest)
  | none =>
    match readMoment? s with
    | some read => read
    | none =>
      match based? s with
      | some read => .ok read
      | none =>
        match decimal? s with
        | some read => read
        | none =>
          match named? s with
          | some read => .ok read
          | none => .error .malformed

end ContentQuery.Toml
