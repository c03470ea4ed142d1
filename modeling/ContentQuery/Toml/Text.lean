import ContentQuery.Text

/-!
# ContentQuery.Toml.Text

The strings of TOML documents, read and written: basic strings with escapes, literal strings without
any, and both kinds on several lines.
-/

namespace ContentQuery.Toml

/-- Why a document was not read. -/
inductive ReadError where
  /-- The text breaks the grammar, or defines something twice. -/
  | malformed
  /-- An integer has more digits than are converted. -/
  | longInteger
  /-- Arrays and inline tables are nested too deep. -/
  | tooDeep
  deriving DecidableEq

/-- A step of reading gives what was read and the text after it. -/
abbrev Read (α : Type) := Text → Except ReadError (α × Text)

/-- White space within a line. -/
def isSpace (c : CodePoint) : Bool := c = ' ' || c = '\t'

/-- White space and line ends. -/
def isFiller (c : CodePoint) : Bool := isSpace c || c = '\n'

/-- Controls, which no text of a document may hold as they are; a tab is none of them. -/
def isControl (c : CodePoint) : Bool := (c.val < 0x20 && c ≠ '\t') || c.val = 0x7F

/-- The marks around a basic string on several lines. -/
def threeQuotes : Text := "\"\"\""

/-- The marks around a literal string on several lines. -/
def threeApostrophes : Text := "'''"

/-! ## Basic strings -/

/-- Where the reading of a basic string stands. -/
inductive StringState where
  | plain
  /-- After a backslash. -/
  | escape
  /-- In the number of an escape: the digits that are missing and the value so far. -/
  | number (missing value : Nat)
  /-- In white space that a backslash at the end of a line hides; before or after the line end. -/
  | hidden (afterLine : Bool)

/-- What the next code point of a basic string means. -/
inductive StringStep where
  | emit (c : CodePoint)
  | skip (state : StringState)
  /-- The string has ended, and this is the text after it. -/
  | finish (rest : Text)
  | fail

/-- The code point that a one-letter escape stands for. -/
def shortEscape? (c : CodePoint) : Option CodePoint :=
  if c = '"' || c = '\\' then some c
  else if c = 'b' then some (.ofNat 0x08)
  else if c = 'f' then some (.ofNat 0x0C)
  else if c = 'n' then some '\n'
  else if c = 'r' then some '\r'
  else if c = 't' then some '\t'
  else none

/-- The code point of a number, unless it is a surrogate. -/
def scalar? (n : Nat) : Option CodePoint :=
  if h : n < 0x110000 then
    if CodePoint.isSurrogate ⟨n, h⟩ then none else some ⟨n, h⟩
  else none

/-- A step outside of any escape. -/
def plainStep (multiline : Bool) (c : CodePoint) (rest : Text) : StringStep :=
  if c = '"' then
    if !multiline then .finish rest
    else match rest with
      | a :: b :: after => if a = '"' && b = '"' then .finish after else .emit c
      | _ => .emit c
  else if c = '\\' then .skip .escape
  else if isControl c && !(multiline && c = '\n') then .fail
  else .emit c

/-- A step after a backslash. -/
def escapeStep (multiline : Bool) (c : CodePoint) : StringStep :=
  if multiline && isFiller c then .skip (.hidden (c = '\n'))
  else if c = 'u' then .skip (.number 4 0)
  else if c = 'U' then .skip (.number 8 0)
  else match shortEscape? c with
    | some d => .emit d
    | none => .fail

/-- A step in the number of an escape. -/
def numberStep (missing value : Nat) (c : CodePoint) : StringStep :=
  match c.hexDigit? with
  | none => .fail
  | some d =>
    let value := 16 * value + d
    if 1 < missing then .skip (.number (missing - 1) value)
    else match scalar? value with
      | some c => .emit c
      | none => .fail

/-- What the next code point means. -/
def stringStep (multiline : Bool) : StringState → CodePoint → Text → StringStep
  | .plain, c, rest => plainStep multiline c rest
  | .escape, c, _ => escapeStep multiline c
  | .number missing value, c, _ => numberStep missing value c
  | .hidden afterLine, c, rest =>
    if isSpace c then .skip (.hidden afterLine)
    else if c = '\n' then .skip (.hidden true)
    else if afterLine then plainStep multiline c rest
    else .fail

/-- Reads a basic string up to its closing quotes. -/
def readBasicFrom (multiline : Bool) : StringState → Read Text
  | _, [] => .error .malformed
  | state, c :: rest =>
    match stringStep multiline state c rest with
    | .emit d => do
      let (s, after) ← readBasicFrom multiline .plain rest
      return (d :: s, after)
    | .skip state => readBasicFrom multiline state rest
    | .finish after => .ok ([], after)
    | .fail => .error .malformed

/-- Reads a basic string after its opening quotes. -/
def readBasic (multiline : Bool) : Read Text := readBasicFrom multiline .plain

/-! ## Literal strings -/

/-- Reads a literal string on one line, after its opening quote. -/
def readLiteral : Read Text
  | [] => .error .malformed
  | c :: rest =>
    if c = '\'' then .ok ([], rest)
    else if isControl c then .error .malformed
    else do
      let (s, after) ← readLiteral rest
      return (c :: s, after)

/-- Reads a literal string on several lines, after its opening quotes. -/
def readLiteralLines : Read Text
  | [] => .error .malformed
  | c :: rest =>
    if threeApostrophes.isPrefixOf (c :: rest) then .ok ([], rest.drop 2)
    else if isControl c && c ≠ '\n' then .error .malformed
    else do
      let (s, after) ← readLiteralLines rest
      return (c :: s, after)

/-! ## All strings -/

/-- The text without a line end at its front. -/
def skipLineEnd (s : Text) : Text :=
  match s with
  | c :: rest => if c = '\n' then rest else s
  | [] => s

/-- Up to two more quotes after a string on several lines are part of it. -/
def readTrailing (quote : CodePoint) (s rest : Text) : Text × Text :=
  let extra := (rest.take 2).takeWhile fun c => c = quote
  (s ++ extra, rest.drop extra.length)

/-- Reads a string that may be of any of the four kinds; none if there is no string. -/
def readString? (s : Text) : Option (Except ReadError (Text × Text)) :=
  match s with
  | [] => none
  | c :: rest =>
    if c = '"' then
      if threeQuotes.isPrefixOf s then
        some ((readBasic true (skipLineEnd (s.drop 3))).map fun (t, rest) => readTrailing c t rest)
      else some (readBasic false rest)
    else if c = '\'' then
      if threeApostrophes.isPrefixOf s then
        some ((readLiteralLines (skipLineEnd (s.drop 3))).map fun (t, rest) =>
          readTrailing c t rest)
      else some (readLiteral rest)
    else none

/-! ## Writing -/

/-- One code point inside a basic string. -/
def escape (c : CodePoint) : Text :=
  if c = '"' then "\\\""
  else if c = '\\' then "\\\\"
  else if c = '\n' then "\\n"
  else if c = '\r' then "\\r"
  else if c.val = 0x08 then "\\b"
  else if c.val = 0x0C then "\\f"
  else if isControl c then "\\u" ++ Text.ofNatHex 4 c.val
  else [c]

/-- A basic string on one line. -/
def writeString (s : Text) : Text := "\"" ++ s.flatMap escape ++ "\""

end ContentQuery.Toml
