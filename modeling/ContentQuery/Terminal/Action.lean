import ContentQuery.Text.Blank
import ContentQuery.Text.Numeral
import ContentQuery.Text.Quoted

/-!
# ContentQuery.Terminal.Action

The actions that tags such as `[@click=show(1)]` name after an equals sign: a name, with arguments
in brackets if there are any, or arguments alone.

Arguments are values that are written out: numbers, strings, the words for truth values and for
nothing, and these between brackets. No value is computed. A terminal without a pointer never
performs an action, so all that matters is whether its arguments can be read.
-/

namespace ContentQuery.Terminal.Action

/-- What has to be known of a value that has been read. -/
inductive Shape where
  /-- A number on the real line. -/
  | real
  /-- A number on the imaginary axis. -/
  | imaginary
  /-- A number on the real line with a sign before it. -/
  | signed
  /-- Any other value that can be a member of a set. -/
  | member
  /-- A value that cannot be a member of a set. -/
  | collection
  deriving DecidableEq

/-! ## Blanks -/

/-- Whether a code point may stand between the parts of a value; line ends may within brackets. -/
def isGap (bracketed : Bool) (c : CodePoint) : Bool :=
  c = ' ' || c = '\t' || c.val = 0x0C || bracketed && (c = '\n' || c = '\r')

/-- A text without the blanks and comments at its front; `comment` tells whether it begins within a
comment, which ends with the line. -/
def skipFrom (bracketed : Bool) : (comment : Bool) → Text → Text
  | _, [] => []
  | comment, c :: rest =>
    if comment && c ≠ '\n' && c ≠ '\r' then skipFrom bracketed true rest
    else if isGap bracketed c then skipFrom bracketed false rest
    else if !comment && c = '#' then skipFrom bracketed true rest
    else c :: rest

/-- A text without the blanks and comments at its front. -/
def skip (bracketed : Bool) (s : Text) : Text := skipFrom bracketed false s

/-! ## Numbers -/

/-- Whether a code point is the sign of a number. -/
def isSign (c : CodePoint) : Bool := c = '+' || c = '-'

/-- A run of digits with single underscores between them, without the underscores, and what follows
it; `after` tells whether a digit comes before. -/
def digitRun (isDigit : CodePoint → Bool) : (after : Bool) → Text → Text × Text
  | _, [] => ([], [])
  | after, c :: rest =>
    if isDigit c then
      let (digits, later) := digitRun isDigit true rest
      (c :: digits, later)
    else if after && c = '_' && rest.head?.any isDigit then
      let (digits, later) := digitRun isDigit false rest
      (digits, later)
    else ([], c :: rest)

/-- The digits of the bases other than ten, by the letter that stands for the base. -/
def baseDigits? (letter : CodePoint) : Option (CodePoint → Bool) :=
  if letter = 'x' || letter = 'X' then some fun c => c.hexDigit?.isSome
  else if letter = 'o' || letter = 'O' then some fun c => '0' ≤ c && c ≤ '7'
  else if letter = 'b' || letter = 'B' then some fun c => c = '0' || c = '1'
  else none

/-- Reads an integer in a base other than ten. An underscore may stand before its digits. -/
def readBased? : Text → Option (Shape × Text)
  | zero :: letter :: rest => do
    guard (zero = '0')
    let isDigit ← baseDigits? letter
    match digitRun isDigit true rest with
    | ([], _) => none
    | (_, later) => some (.real, later)
  | _ => none

/-- Reads an exponent, if there is one. -/
def skipExponent (s : Text) : Text :=
  match s with
  | e :: rest =>
    if e = 'e' || e = 'E' then
      let unsigned := match rest with
        | sign :: digits => if isSign sign then digits else rest
        | [] => []
      match digitRun CodePoint.isDigit false unsigned with
      | ([], _) => s
      | (_, later) => later
    else s
  | [] => []

/-- Whether digits can be an integer: zeros stand only before zeros, and there are not too many
digits. -/
def isInteger (digits : Text) : Bool :=
  (digits.head? ≠ some ('0' : CodePoint) || digits.all fun (c : CodePoint) => c = '0')
    && digits.length ≤ Numeral.maxDigits

/-- Reads a decimal number. The letter after an imaginary number is a `j`. -/
def readDecimal? (s : Text) : Option (Shape × Text) :=
  let (whole, afterWhole) := digitRun CodePoint.isDigit false s
  let (fraction, afterFraction) := match afterWhole with
    | point :: rest =>
      if point = '.' then digitRun CodePoint.isDigit false rest else ([], afterWhole)
    | [] => ([], [])
  if whole = [] && fraction = [] then none
  else
    let afterExponent := skipExponent afterFraction
    match afterExponent with
    | j :: rest =>
      if j = 'j' || j = 'J' then some (.imaginary, rest)
      else if afterExponent ≠ afterWhole || isInteger whole then some (.real, afterExponent)
      else none
    | [] => if afterWhole ≠ [] || isInteger whole then some (.real, []) else none

/-- Reads a number. -/
def readNumber? (s : Text) : Option (Shape × Text) := readBased? s <|> readDecimal? s

/-! ## Strings -/

/-- How a string is written. -/
structure StringForm where
  /-- Whether it stands for octets. -/
  octets : Bool
  /-- Whether backslashes stand for themselves. -/
  raw : Bool
  deriving DecidableEq

/-- The forms of strings by the letters before the quote. -/
def stringForms : List (Text × StringForm) :=
  [([], ⟨false, false⟩), ("r", ⟨false, true⟩), ("u", ⟨false, false⟩), ("b", ⟨true, false⟩),
    ("br", ⟨true, true⟩), ("rb", ⟨true, true⟩)]

/-- Whether digits of base sixteen follow, as many as `count`, for a code point that there is. -/
def hasHex (count : Nat) (s : Text) : Bool :=
  match (s.take count).mapM CodePoint.hexDigit? with
  | some values =>
    values.length = count && values.foldl (fun n d => 16 * n + d) 0 < 0x110000
  | none => false

/-- Whether the escape that a letter begins is complete. Characters are not known by name. -/
def isEscape (form : StringForm) (letter : CodePoint) (rest : Text) : Bool :=
  if letter = 'x' then hasHex 2 rest
  else if form.octets then true
  else if letter = 'u' then hasHex 4 rest
  else if letter = 'U' then hasHex 8 rest
  else letter ≠ 'N'

/-- What follows the closing quotes of a string. -/
def afterString? (form : StringForm) (closing : Text) : Text → Option Text
  | [] => none
  | c :: rest =>
    if closing.isPrefixOf (c :: rest) then some ((c :: rest).drop closing.length)
    else if form.octets && 0x80 ≤ c.val || closing.length = 1 && (c = '\n' || c = '\r') then none
    else if c = '\\' then
      match rest with
      | [] => none
      | letter :: rest =>
        if form.raw || isEscape form letter rest then afterString? form closing rest else none
    else afterString? form closing rest

/-- Reads a string, and tells whether it stands for octets. -/
def readString? (s : Text) : Option (Bool × Text) := do
  let letters := s.takeWhile CodePoint.isLetter
  let (_, form) ← stringForms.find? fun entry => entry.1 = letters.map CodePoint.lowerLetter
  match s.drop letters.length with
  | [] => none
  | quote :: rest =>
    guard (quote = '\'' || quote = '"')
    let later ←
      if [quote, quote].isPrefixOf rest then afterString? form [quote, quote, quote] (rest.drop 2)
      else afterString? form [quote] rest
    return (form.octets, later)

/-- Reads the strings that follow a string of the same kind and make one with it; `limit` bounds
their number. -/
def readMore? (bracketed octets : Bool) : (limit : Nat) → Text → Option Text
  | 0, s => some s
  | limit + 1, s =>
    match readString? (skip bracketed s) with
    | none => some s
    | some (more, rest) => if more = octets then readMore? bracketed octets limit rest else none

/-! ## Values -/

/-- The words that are values. -/
def words : List Text := ["True", "False", "None", "..."]

/-- Whether a code point can stand in a name. -/
def isNamePart (c : CodePoint) : Bool :=
  c.isLetter || c.isDigit || c = '_'
    || (0x80 ≤ c.val && !c.isBlank && !Quoted.unprintable.has c.val)

/-- Reads a word that is a value. -/
def readWord? (s : Text) : Option Text := do
  let word ← words.find? fun word => word.isPrefixOf s
  let rest := s.drop word.length
  guard (!rest.head?.any isNamePart)
  return rest

/-- The shape of several values together. -/
def together (shapes : List Shape) : Shape :=
  if shapes.contains .collection then .collection else .member

/-- A text without the code point at its front, which has to be there. -/
def expect? (c : CodePoint) : Text → Option Text
  | [] => none
  | d :: rest => if d = c then some rest else none

/-- The word for the set without members. -/
def emptySet : Text := "set"

/-- Reads the brackets after the word for the set without members. -/
def readEmptySet? (bracketed : Bool) (s : Text) : Option Text := do
  guard (emptySet.isPrefixOf s)
  let rest ← expect? '(' (skip bracketed (s.drop emptySet.length))
  expect? ')' (skip true rest)

mutual

/-- Reads a value without a sign; `limit` bounds the number of steps one within another. -/
def readPlain? (bracketed : Bool) : (limit : Nat) → Text → Option (Shape × Text)
  | 0, _ => none
  | _, [] => none
  | limit + 1, c :: rest =>
    if c = '(' then
      let inner := skip true rest
      match expect? ')' inner with
      | some later => some (.member, later)
      | none => do
        let (shapes, comma, later) ← readItems? true limit inner
        let later ← expect? ')' later
        match shapes, comma with
        | [shape], false => return (shape, later)
        | shapes, _ => return (together shapes, later)
    else if c = '\x7b' then
      let inner := skip true rest
      match expect? '\x7d' inner with
      | some later => some (.collection, later)
      | none => do
        let later ← readMembers? none limit inner
        return (.collection, later)
    else
      let s := c :: rest
      match readString? s with
      | some (octets, later) =>
        (readMore? bracketed octets s.length later).map fun later => (.member, later)
      | none =>
        readNumber? s
          <|> (readWord? s).map (fun later => (.member, later))
          <|> (readEmptySet? bracketed s).map fun later => (.collection, later)

/-- Reads a value that may have a sign if it is a number. -/
def readSigned? (bracketed : Bool) : (limit : Nat) → Text → Option (Shape × Text)
  | 0, _ => none
  | _, [] => none
  | limit + 1, c :: rest =>
    if isSign c then
      match readPlain? bracketed limit (skip bracketed rest) with
      | some (.real, later) => some (.signed, later)
      | some (.imaginary, later) => some (.member, later)
      | _ => none
    else readPlain? bracketed limit (c :: rest)

/-- Reads a value, or a sum of a real and an imaginary number. -/
def readValue? (bracketed : Bool) : (limit : Nat) → Text → Option (Shape × Text)
  | 0, _ => none
  | limit + 1, s => do
    let (shape, later) ← readSigned? bracketed limit s
    match skip bracketed later with
    | [] => return (shape, later)
    | c :: rest =>
      if isSign c then
        guard (shape = .real || shape = .signed)
        match readPlain? bracketed limit (skip bracketed rest) with
        | some (.imaginary, later) => return (.member, later)
        | _ => none
      else return (shape, later)

/-- Reads values with commas between them, and tells whether there is a comma. -/
def readItems? (bracketed : Bool) : (limit : Nat) → Text → Option (List Shape × Bool × Text)
  | 0, _ => none
  | limit + 1, s => do
    let (shape, later) ← readValue? bracketed limit s
    let later := skip bracketed later
    match expect? ',' later with
    | none => return ([shape], false, later)
    | some rest =>
      let rest := skip bracketed rest
      if rest = [] || rest.head? = some (')' : CodePoint) then return ([shape], true, rest)
      else
        let (shapes, _, later) ← readItems? bracketed limit rest
        return (shape :: shapes, true, later)

/-- Reads the members of a set, or the pairs of a mapping, and the bracket after them; `paired`
tells which of the two, if it is known. -/
def readMembers? (paired : Option Bool) : (limit : Nat) → Text → Option Text
  | 0, _ => none
  | limit + 1, s => do
    let (shape, later) ← readValue? true limit s
    guard (shape ≠ .collection)
    let later := skip true later
    let (pair, later) ← match expect? ':' later with
      | none => some (false, later)
      | some rest => (readValue? true limit (skip true rest)).map fun (_, later) =>
          (true, skip true later)
    guard (paired.all fun expected => expected = pair)
    match expect? ',' later with
    | none => expect? '\x7d' later
    | some rest =>
      let rest := skip true rest
      match expect? '\x7d' rest with
      | some later => return later
      | none => readMembers? (some pair) limit rest

end

/-- Whether a text is a value, or several values with commas between them. -/
def isValue (s : Text) : Bool :=
  match readItems? false (4 * s.length + 4) s with
  | some (_, _, later) => later.isEmpty
  | none => false

/-! ## Actions -/

/-- Whether what stands after the equals sign of a tag is an action: the name of one, a name with
arguments in brackets, or a value. -/
def isAction (s : Text) : Bool :=
  let s := s.trim
  let arguments := s.dropWhile fun c => isNamePart c || c = '.'
  let bracketed := arguments.head? = some ('(' : CodePoint)
    && arguments.getLast? = some (')' : CodePoint) && !arguments.contains ('\n' : CodePoint)
  arguments = [] || isValue (if bracketed then arguments else s)

end ContentQuery.Terminal.Action
