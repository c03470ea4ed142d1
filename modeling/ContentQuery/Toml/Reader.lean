import ContentQuery.Toml.Scalar

/-!
# ContentQuery.Toml.Reader

Reading TOML documents, statement by statement. The first statement that cannot be read, or that
does not fit what has been read before, ends the reading.
-/

namespace ContentQuery.Toml

/-! ## White space and comments -/

def skipSpace (s : Text) : Text := s.dropWhile isSpace

/-- The text after a comment, from the line end on. -/
def skipComment : Read Unit
  | [] => .ok ((), [])
  | c :: rest =>
    if c = '\n' then .ok ((), c :: rest)
    else if isControl c then .error .malformed
    else skipComment rest

/-- The text after a comment if one begins here. -/
def skipOptionalComment (s : Text) : Except ReadError Text :=
  match s with
  | c :: rest => if c = '#' then (skipComment rest).map (·.2) else .ok s
  | [] => .ok s

/-- The text after white space, line ends and comments. -/
def skipFiller (inComment : Bool) : Text → Except ReadError Text
  | [] => .ok []
  | c :: rest =>
    if c = '\n' then skipFiller false rest
    else if inComment then if isControl c then .error .malformed else skipFiller true rest
    else if isSpace c then skipFiller false rest
    else if c = '#' then skipFiller true rest
    else .ok (c :: rest)

/-! ## Keys -/

/-- Whether a code point can stand in a name without quotes. -/
def isBare (c : CodePoint) : Bool :=
  c.isDigit || c.isLetter || c = '-' || c = '_'

/-- Whether a key can begin with a code point. -/
def beginsKey (c : CodePoint) : Bool := isBare c || c = '"' || c = '\''

/-- Reads one name of a key, and the white space after it. -/
def readName : Read Text
  | [] => .error .malformed
  | c :: rest => do
    let (name, rest) ←
      if c = '"' then readBasic false rest
      else if c = '\'' then readLiteral rest
      else if isBare c then
        pure ((c :: rest).takeWhile isBare, (c :: rest).dropWhile isBare)
      else throw .malformed
    return (name, skipSpace rest)

/-- Reads the names after the first one, each after a point; `limit` bounds their number. -/
def readNames : (limit : Nat) → Read (List Text)
  | 0, s => .ok ([], s)
  | limit + 1, s =>
    match after? '.' s with
    | none => .ok ([], s)
    | some rest => do
      let (name, rest) ← readName (skipSpace rest)
      let (names, rest) ← readNames limit rest
      return (name :: names, rest)

/-- Reads a key: its first name, and the names after it. -/
def readKey : Read (Text × List Text) := fun s => do
  let (name, rest) ← readName s
  let (names, rest) ← readNames rest.length rest
  return ((name, names), rest)

/-! ## Values -/

/-- A result that is there, or else an error of the grammar. -/
def orMalformed {α : Type} : Option α → Except ReadError α
  | some a => .ok a
  | none => .error .malformed

/-- Reads a key, an equals sign and a value. -/
def readPair (value : Read Value) : Read ((Text × List Text) × Value) := fun s => do
  let (key, rest) ← readKey s
  let rest ← orMalformed (after? '=' rest)
  let (v, rest) ← value (skipSpace rest)
  return ((key, v), rest)

/-- Reads the items of an array up to its bracket; a comma may follow the last one. -/
def readItems (value : Read Value) : (limit : Nat) → Read (List Value)
  | 0, _ => .error .malformed
  | limit + 1, s => do
    match after? ']' s with
    | some rest => return ([], rest)
    | none =>
      let (item, rest) ← value s
      let rest ← skipFiller false rest
      match after? ',' rest with
      | some rest =>
        let rest ← skipFiller false rest
        let (items, rest) ← readItems value limit rest
        return (item :: items, rest)
      | none =>
        let rest ← orMalformed (after? ']' rest)
        return ([item], rest)

/-- Reads the pairs of an inline table up to its brace, adding them to the entries read before. -/
def readPairs (value : Read Value) (entries : Entries) : (limit : Nat) → Read Entries
  | 0, _ => .error .malformed
  | limit + 1, s => do
    let (((name, names), v), rest) ← readPair value s
    let entries ← orMalformed (insert name names v entries)
    let rest := skipSpace rest
    match after? ',' rest with
    | some rest => readPairs value entries limit (skipSpace rest)
    | none =>
      let rest ← orMalformed (after? '\x7d' rest)
      return (entries, rest)

/-- Reads a value. The arrays and inline tables around each other may count up to `nesting`, of
which an array counts two and an inline table three. -/
def readValue : (nesting : Nat) → Read Value
  | nesting + 3, s =>
    match s with
    | [] => .error .malformed
    | c :: rest =>
      if c = '[' then do
        let rest ← skipFiller false rest
        let (items, rest) ← readItems (readValue (nesting + 1)) (rest.length + 1) rest
        return (.array items, rest)
      else if c = '\x7b' then do
        match after? '\x7d' (skipSpace rest) with
        | some rest => return (.table [], rest)
        | none =>
          let (entries, rest) ← readPairs (readValue nesting) [] (rest.length + 1) (skipSpace rest)
          return (.table (valuesOf entries), rest)
      else readScalar s
  | _, s =>
    match s with
    | [] => .error .malformed
    | c :: _ => if c = '[' || c = '\x7b' then .error .tooDeep else readScalar s

/-! ## Statements -/

/-- What has been read of a document: its entries, and the names that lead to the
current section. -/
structure Progress where
  entries : Entries
  header : List Text

/-- Reads a header after its opening brackets. -/
def readHeader (progress : Progress) (change : Option Node → Option Node) (close : Text) :
    Read Progress := fun s => do
  let ((name, names), rest) ← readKey (skipSpace s)
  let entries ← orMalformed (declare change name names (closedEntries progress.entries))
  if close.isPrefixOf rest then return (⟨entries, name :: names⟩, rest.drop close.length)
  else throw .malformed

/-- Reads a pair and adds it to the current section. -/
def readEntry (room : Nat) (progress : Progress) : Read Progress := fun s => do
  let (((name, names), v), rest) ← readPair (readValue room) s
  let entries ← orMalformed (modifyAt (insert name names v) progress.header progress.entries)
  return (⟨entries, progress.header⟩, rest)

/-- Reads a statement: a header, a pair, or nothing at all. -/
def readStatement (room : Nat) (progress : Progress) : Read Progress := fun s =>
  match s with
  | [] => .ok (progress, s)
  | c :: rest =>
    if c = '[' then
      match after? '[' rest with
      | some rest => readHeader progress declareElement "]]" rest
      | none => readHeader progress declareTable "]" rest
    else if beginsKey c then readEntry room progress s
    else .ok (progress, s)

/-- Reads lines until the text ends. After its statement a line may have a comment. -/
def readLines (room : Nat) (progress : Progress) : (limit : Nat) → Text → Except ReadError Entries
  | 0, _ => .error .malformed
  | limit + 1, s => do
    let (progress, rest) ← readStatement room progress (skipSpace s)
    match ← skipOptionalComment (skipSpace rest) with
    | [] => return progress.entries
    | c :: rest => if c = '\n' then readLines room progress limit rest else throw .malformed

/-- Line ends in their short form. -/
def normalizeLines : Text → Text
  | [] => []
  | c :: rest =>
    if c = '\r' && rest.head? = some ('\n' : CodePoint) then normalizeLines rest
    else c :: normalizeLines rest

/-- Reads a document: its values by key. There is room for a number of arrays and inline tables
around each other. -/
def read (room : Nat) (s : Text) : Except ReadError (List (Text × Value)) :=
  let s := normalizeLines s
  (readLines room ⟨[], []⟩ (s.length + 1) s).map valuesOf

end ContentQuery.Toml
