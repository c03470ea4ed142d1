import ContentQuery.Json
import ContentQuery.Text.Blank
import ContentQuery.Text.Numeral
import ContentQuery.Timestamp

/-!
# ContentQuery.Timestamp.Reader

Reading points in time.

A timestamp is a date, any one character, a time of day and an offset from universal time. The date
is given by month and day or by week and weekday; date, time and offset may be written with or
without separators; the time may be left out, and so may the offset, which then is zero. The usual
form is `2024-01-31T09:00:00.5+01:00`.
-/

namespace ContentQuery.Timestamp

/-- Why there is no timestamp. -/
inductive ReadError where
  /-- The value is not a text; its type is given by name. -/
  | notText (type : Text)
  | malformed
  /-- The point in time lies outside the years that timestamps cover. -/
  | outOfRange
  deriving DecidableEq

/-! ## Normal form -/

/-- Drops what follows the sixth digit after a point; `seen` counts the digits after a point. -/
def shortenFractions (seen : Option Nat) : Text → Text
  | [] => []
  | c :: rest =>
    if c = '.' then c :: shortenFractions (some 0) rest
    else if Numeral.digits.has c.val then
      match seen with
      | none => c :: shortenFractions none rest
      | some n => if n < 6 then c :: shortenFractions (some (n + 1)) rest
        else shortenFractions seen rest
    else c :: shortenFractions none rest

/-- Writes the offset zero in digits where it is given by a letter. -/
def spellZulu (s : Text) : Text :=
  match s.getLast? with
  | some c => if c = 'Z' || c = 'z' then s.dropLast ++ "+00:00" else s
  | none => s

/-- A surrogate in a place where dates end is taken for the character between date and time: it
becomes a letter. Only the first of the places that holds one counts. -/
def replaceSurrogate (s : Text) : Text :=
  match [7, 8, 10].find? fun i => (s[i]?.map CodePoint.isSurrogate).getD false with
  | some i => s.set i 'T'
  | none => s

/-! ## Dates -/

/-- The number that exactly `count` digits at the front denote, and the text after them. -/
def digits? : (count : Nat) → Text → Option (Nat × Text) := fun count s =>
  let ds := s.take count
  if ds.length = count && ds.all CodePoint.isDigit then
    some (Text.digitsValue ds, s.drop count)
  else none

/-- The text after a given character; the text itself where no character is asked for. -/
def skip? (expected : Option CodePoint) (s : Text) : Option Text :=
  match expected with
  | none => some s
  | some mark =>
    match s with
    | c :: rest => if c = mark then some rest else none
    | [] => none

/-- How many characters at the front are the date. The answer depends on the separators: a hyphen
after the year, a `W` for weeks, and for weeks whether a weekday follows. -/
def dateLength? (s : Text) : Option Nat :=
  let at' := fun i => s[i]?
  let isDigitAt := fun i => ((at' i).map CodePoint.isDigit).getD false
  if s.length = 7 then some 7
  else if at' 4 = some ('-' : CodePoint) then
    if at' 5 = some ('W' : CodePoint) then
      if at' 8 = some ('-' : CodePoint) then
        if s.length = 9 then none
        else if isDigitAt 10 then some 8
        else some 10
      else some 8
    else some 10
  else if at' 4 = some ('W' : CodePoint) then
    let stop := 7 + ((s.drop 7).takeWhile CodePoint.isDigit).length
    if stop < 9 then some stop
    else if stop % 2 = 0 then some 7
    else some 8
  else some 8

/-- Reads a date that takes up the whole text. -/
def readDate (s : Text) : Option Date := do
  let (year, rest) ← digits? 4 s
  let separator : Option CodePoint := if rest.head? = some ('-' : CodePoint) then some '-' else none
  let rest ← skip? separator rest
  match rest with
  | [] => none
  | c :: afterMark =>
    if c = 'W' then
      let (week, rest) ← digits? 2 afterMark
      if rest = [] then Date.ofWeek? year week 1
      else
        let (day, rest) ← digits? 1 (← skip? separator rest)
        if rest = [] then Date.ofWeek? year week day else none
    else
      let (month, rest) ← digits? 2 (c :: afterMark)
      let (day, rest) ← digits? 2 (← skip? separator rest)
      if rest = [] then some ⟨year, month, day⟩ else none

/-! ## Times of day and offsets -/

/-- A time of day or the size of an offset; `junk` tells that characters were left over. -/
structure Clock where
  hours : Nat
  minutes : Nat
  seconds : Nat
  micros : Nat
  junk : Bool

/-- A clock in microseconds. -/
def Clock.total (c : Clock) : Nat :=
  ((c.hours * 60 + c.minutes) * 60 + c.seconds) * 1000000 + c.micros

/-- Whether nothing counts any more: at the end, and at a null character. -/
def isEnd : Text → Bool
  | [] => true
  | c :: _ => c.val = 0

/-- Reads the digits of a fraction: at most six count, and any more digits are skipped. -/
def readFraction (s : Text) : Option (Nat × Bool) := do
  let count := min 6 s.length
  let (value, rest) ← digits? count s
  return (value * Nat.pow 10 (6 - count), !isEnd (rest.dropWhile CodePoint.isDigit))

/-- Reads up to `fields` numbers of two digits, and what may follow them: a single character, which
counts as junk, or a fraction. Colons stand between all numbers or none; `colons` tells which, once
it is known. -/
def readFields : (fields : Nat) → (colons : Option Bool) → Text → Option (List Nat × Nat × Bool)
  | 0, _, s => do
    let (micros, junk) ← readFraction s
    return ([], micros, junk)
  | fields + 1, colons, s => do
    let (value, rest) ← digits? 2 s
    match rest with
    | [] => return ([value], 0, false)
    | c :: after =>
      let colons := colons.getD (c = ':')
      if after = [] && c.val < 0x80 then return ([value], 0, !isEnd rest)
      else if colons && c = ':' then
        let (values, others) ← readFields fields (some colons) after
        return (value :: values, others)
      else if c = '.' || c = ',' then
        let (micros, junk) ← readFraction after
        return ([value], micros, junk)
      else if colons then none
      else
        let (values, others) ← readFields fields (some colons) rest
        return (value :: values, others)

/-- Reads hours, and optionally minutes, seconds and a fraction of the last of them. -/
def readClock (s : Text) : Option Clock := do
  let (values, micros, junk) ← readFields 3 none s
  return ⟨values.getD 0 0, values.getD 1 0, values.getD 2 0, micros, junk⟩

/-- Whether a time of day exists. -/
def Clock.isTimeOfDay (c : Clock) : Bool := c.hours < 24 && c.minutes < 60 && c.seconds < 60

/-- The signs that begin an offset. -/
def isSign (c : CodePoint) : Bool := c = '+' || c = '-' || c = 'Z'

/-- Reads an offset, in microseconds. It has to be smaller than a day, and one that is smaller than
a second counts as zero. -/
def readOffset (sign : CodePoint) (s : Text) : Option Int :=
  if sign = 'Z' then if isEnd s then some 0 else none
  else do
    let clock ← readClock s
    if clock.junk || 86400000000 ≤ clock.total then none
    else if clock.total < 1000000 then some 0
    else some (if sign = '-' then -clock.total else clock.total)

/-- Reads a time of day and an offset, both in microseconds. Characters may be left over after the
time of day only if an offset follows. -/
def readTime (s : Text) : Option (Nat × Int) := do
  let clock ← readClock (s.takeWhile fun c => !isSign c)
  if !clock.isTimeOfDay then none
  match s.dropWhile fun c => !isSign c with
  | [] => if clock.junk then none else some (clock.total, 0)
  | sign :: rest => return (clock.total, ← readOffset sign rest)

/-! ## Timestamps -/

/-- Reads a timestamp in normal form as a number of microseconds from the beginning of year 1, which
may lie outside the range of timestamps because of its offset. -/
def readMicros (s : Text) : Option Int := do
  let s := replaceSurrogate s
  if s.length < 7 || s.any CodePoint.isSurrogate then none
  let length ← dateLength? s
  let date ← readDate (s.take length)
  if !date.isValid then none
  let (time, offset) ← match s.drop length with
    | [] => some (0, 0)
    | _ :: time => readTime time
  return (date.dayNumber * 86400000000 + time : Nat) - offset

/-- Reads a timestamp. White space around it is ignored, and so are digits beyond microseconds. -/
def parse (source : Text) : Except ReadError Timestamp :=
  match readMicros (spellZulu (shortenFractions none source.trim)) with
  | none => .error .malformed
  | some micros =>
    match ofMicros? micros with
    | none => .error .outOfRange
    | some t => .ok t

/-- The name of a value's type in the report that it is not a text. -/
def typeName : Json → Text
  | .null => "NoneType"
  | .bool _ => "bool"
  | .int _ => "int"
  | .float _ => "float"
  | .string _ => "str"
  | .array _ => "list"
  | .object _ => "dict"

/-- Reads the timestamp that a JSON value is. -/
def ofJson : Json → Except ReadError Timestamp
  | .string s => parse s
  | value => .error (.notText (typeName value))

end ContentQuery.Timestamp
