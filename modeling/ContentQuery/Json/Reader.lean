import ContentQuery.Decimal
import ContentQuery.Json

/-!
# ContentQuery.Json.Reader

Reading JSON text.

The reader goes through the text once and stops at the first problem. A dialect says what happens to
the three names of numbers that are not finite and to integers that are too long to convert; the
nesting of arrays and objects is bounded.
-/

namespace ContentQuery.Json

/-- Why a text was not read as JSON. -/
inductive ReadError where
  /-- The text breaks the grammar. -/
  | malformed
  /-- An integer has more digits than are converted. -/
  | longInteger
  /-- Arrays and objects are nested beyond the bound. -/
  | tooDeep
  deriving DecidableEq

/-- How leniently numbers are read. -/
structure Dialect where
  /-- Whether `NaN`, `Infinity` and `-Infinity` are values. -/
  nonFinite : Bool
  /-- Whether an integer with too many digits is read as an infinity; otherwise it is refused. -/
  saturate : Bool

/-- The most digits an integer may have to be converted. -/
def maxDigits : Nat := 4300

/-- A step of reading gives what was read and the text after it. -/
abbrev Read (α : Type) := Text → Except ReadError (α × Text)

/-- The white space of JSON: space, tab and line ends. -/
def isSpace (c : CodePoint) : Bool := c = ' ' || c = '\t' || c = '\n' || c = '\r'

def skipSpace (s : Text) : Text := s.dropWhile isSpace

/-! ## Strings -/

/-- One element of a string literal: a code point, or a number given by a hexadecimal escape. -/
inductive Piece where
  | plain (c : CodePoint)
  | unit (n : CodePoint)

/-- The code point that a one-letter escape stands for. -/
def shortEscape? (c : CodePoint) : Option CodePoint :=
  if c = '"' || c = '\\' || c = '/' then some c
  else if c = 'b' then some (.ofNat 0x08)
  else if c = 'f' then some (.ofNat 0x0C)
  else if c = 'n' then some '\n'
  else if c = 'r' then some '\r'
  else if c = 't' then some '\t'
  else none

/-- The number that four hexadecimal digits denote. -/
def hexUnit? (a b c d : CodePoint) : Option CodePoint := do
  let a ← a.hexDigit?
  let b ← b.hexDigit?
  let c ← c.hexDigit?
  let d ← d.hexDigit?
  return .ofNat (((a * 16 + b) * 16 + c) * 16 + d)

/-- Reads the elements of a string literal up to its closing quote; `done` holds those before, the
last one first. Controls have to be escaped. -/
def readPieces (done : List Piece) : Read (List Piece)
  | [] => .error .malformed
  | c :: rest =>
    if c = '"' then .ok (done.reverse, rest)
    else if c.val < 0x20 then .error .malformed
    else if c ≠ '\\' then readPieces (.plain c :: done) rest
    else match rest with
      | [] => .error .malformed
      | e :: rest =>
        if e = 'u' then
          match rest with
          | a :: b :: c :: d :: rest =>
            match hexUnit? a b c d with
            | some n => readPieces (.unit n :: done) rest
            | none => .error .malformed
          | _ => .error .malformed
        else match shortEscape? e with
          | some c => readPieces (.plain c :: done) rest
          | none => .error .malformed

/-- The code point that a high and a low surrogate name together. -/
def joinSurrogates (high low : CodePoint) : CodePoint :=
  .ofNat (0x10000 + (high.val - 0xD800) * 0x400 + (low.val - 0xDC00))

/-- Two escaped halves that follow each other name one code point; a half alone stands
for itself. -/
def joinPieces : List Piece → Text
  | [] => []
  | .unit high :: .unit low :: rest =>
    if high.isHighSurrogate && low.isLowSurrogate then
      joinSurrogates high low :: joinPieces rest
    else high :: joinPieces (.unit low :: rest)
  | .unit n :: rest => n :: joinPieces rest
  | .plain c :: rest => c :: joinPieces rest

/-- Reads the rest of a string literal after its opening quote. -/
def readString : Read Text := fun s => do
  let (pieces, rest) ← readPieces [] s
  return (joinPieces pieces, rest)

/-! ## Numbers -/

/-- The fraction of a numeral: a point with at least one digit after it; otherwise nothing. -/
def splitFraction : Text → Text × Text
  | [] => ([], [])
  | c :: rest =>
    let digits := rest.takeWhile CodePoint.isDigit
    if c = '.' && !digits.isEmpty then (digits, rest.dropWhile CodePoint.isDigit)
    else ([], c :: rest)

/-- The sign of an exponent, minus being true. -/
def splitSign : Text → Bool × Text
  | [] => (false, [])
  | c :: rest =>
    if c = '-' then (true, rest) else if c = '+' then (false, rest) else (false, c :: rest)

/-- The exponent of a numeral: the mark, an optional sign and at least one digit; otherwise none. -/
def splitExponent : Text → Option Int × Text
  | [] => (none, [])
  | c :: rest =>
    if c = 'e' || c = 'E' then
      let (negative, unsigned) := splitSign rest
      let digits := unsigned.takeWhile CodePoint.isDigit
      if digits.isEmpty then (none, c :: rest)
      else
        let n : Int := Text.digitsValue digits
        (some (if negative then -n else n), unsigned.dropWhile CodePoint.isDigit)
    else (none, c :: rest)

/-- The digits before the point: a zero alone, or digits that do not begin with a zero. -/
def splitWhole : Text → Option (Text × Text)
  | [] => none
  | c :: rest =>
    if c = '0' then some ([c], rest)
    else if c.isDigit then
      some (c :: rest.takeWhile CodePoint.isDigit, rest.dropWhile CodePoint.isDigit)
    else none

/-- The integer with these digits, as the dialect takes it. -/
def integer (dialect : Dialect) (negative : Bool) (digits : Text) : Except ReadError Json :=
  if digits.length ≤ maxDigits then
    let n : Int := Text.digitsValue digits
    .ok (.int (if negative then -n else n))
  else if dialect.saturate then .ok (.float (.infinite negative))
  else .error .longInteger

/-- Reads a number after its sign. Without fraction and exponent it is an integer. -/
def readUnsigned (dialect : Dialect) (negative : Bool) : Read Json := fun s =>
  match splitWhole s with
  | none => .error .malformed
  | some (whole, rest) =>
    let (fraction, rest) := splitFraction rest
    let (exponent, rest) := splitExponent rest
    if fraction.isEmpty && exponent.isNone then
      (integer dialect negative whole).map (·, rest)
    else
      let d := Decimal.ofDigits negative whole fraction (exponent.getD 0)
      .ok (.float d.toBinary64, rest)

/-- Reads a number. -/
def readNumber (dialect : Dialect) : Read Json
  | [] => .error .malformed
  | c :: rest =>
    if c = '-' then readUnsigned dialect true rest else readUnsigned dialect false (c :: rest)

/-! ## Values -/

/-- The values that every dialect writes as a name. -/
def plainNames : List (Text × Json) :=
  [("null", .null), ("true", .bool true), ("false", .bool false)]

/-- The names of the numbers that are not finite. -/
def nonFiniteNames : List (Text × Json) :=
  [("NaN", .float .nan), ("Infinity", .float (.infinite false)),
    ("-Infinity", .float (.infinite true))]

/-- The values that are written as a name, each with its name. -/
def names (dialect : Dialect) : List (Text × Json) :=
  if dialect.nonFinite then plainNames ++ nonFiniteNames else plainNames

/-- Reads a value that is neither an array nor an object. -/
def readScalar (dialect : Dialect) : Read Json := fun s =>
  match s with
  | [] => .error .malformed
  | c :: rest =>
    if c = '"' then (readString rest).map fun (text, rest) => (.string text, rest)
    else match (names dialect).find? fun name => name.1.isPrefixOf s with
      | some (name, value) => .ok (value, s.drop name.length)
      | none => readNumber dialect s

/-- Reads at least one item and the items after it, with commas between, up to the mark that closes
them; `limit` bounds the number of items. -/
def readItems {α : Type} (item : Read α) (close : CodePoint) : (limit : Nat) → Read (List α)
  | 0, _ => .error .malformed
  | limit + 1, s => do
    let (value, rest) ← item s
    match skipSpace rest with
    | [] => .error .malformed
    | c :: rest =>
      if c = close then .ok ([value], rest)
      else if c = ',' then
        let (values, rest) ← readItems item close limit (skipSpace rest)
        .ok (value :: values, rest)
      else .error .malformed

/-- Reads what stands between an opening mark, already read, and its closing mark. -/
def readEnclosed {α : Type} (item : Read α) (close : CodePoint) : Read (List α) := fun s =>
  match skipSpace s with
  | [] => .error .malformed
  | c :: rest =>
    if c = close then .ok ([], rest) else readItems item close (rest.length + 1) (c :: rest)

/-- Reads a name, a colon and a value. -/
def readField {α : Type} (value : Read α) : Read (Text × α)
  | [] => .error .malformed
  | c :: rest =>
    if c = '"' then do
      let (name, rest) ← readString rest
      match skipSpace rest with
      | [] => .error .malformed
      | c :: rest =>
        if c = ':' then do
          let (value, rest) ← value (skipSpace rest)
          .ok ((name, value), rest)
        else .error .malformed
    else .error .malformed

/-- Reads a value with at most `depth` arrays and objects around each other. -/
def readValue (dialect : Dialect) : (depth : Nat) → Read Json
  | 0, s =>
    match s with
    | c :: _ => if c = '[' || c = '{' then .error .tooDeep else readScalar dialect s
    | [] => .error .malformed
  | depth + 1, s =>
    match s with
    | c :: rest =>
      if c = '[' then
        (readEnclosed (readValue dialect depth) ']' rest).map fun (items, rest) =>
          (.array items, rest)
      else if c = '{' then
        (readEnclosed (readField (readValue dialect depth)) '}' rest).map fun (fields, rest) =>
          (.object (distinctFields fields), rest)
      else readScalar dialect s
    | [] => .error .malformed

/-- Reads a whole text as one value with white space around it, with room for a number of arrays and
objects around each other. A byte order mark is not allowed. -/
def read (dialect : Dialect) (room : Nat) (s : Text) : Except ReadError Json := do
  let (value, rest) ← readValue dialect room (skipSpace s)
  match skipSpace rest with
  | [] => .ok value
  | _ :: _ => .error .malformed

/-- JSON text that somebody stores as the content of a document: numbers are finite as written, and
an integer of any length is read. -/
def Dialect.content : Dialect := ⟨false, true⟩

/-- JSON text that a program wrote into a file. -/
def Dialect.file : Dialect := ⟨true, false⟩

end ContentQuery.Json
