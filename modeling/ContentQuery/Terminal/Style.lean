import ContentQuery.Terminal.Style.Colors
import ContentQuery.Text.Case
import ContentQuery.Text.Numeral

/-!
# ContentQuery.Terminal.Style

Styles of text on a terminal, as they are described by words: effects, the colours of the text
and of its background, and a link.

There are several descriptions of one style. Each style has one normal description, by which tags
that open and close the same style are matched.
-/

namespace ContentQuery.Terminal

/-- What a style can switch on or off. -/
inductive Effect where
  | bold
  | dim
  | italic
  | underline
  | blink
  | fastBlink
  | reverse
  | conceal
  | strike
  | doubleUnderline
  | frame
  | encircle
  | overline
  deriving DecidableEq

namespace Effect

/-- Every effect, in the order in which they stand in a description. -/
def every : List Effect :=
  [bold, dim, italic, underline, blink, fastBlink, reverse, conceal, strike, doubleUnderline, frame,
    encircle, overline]

/-- The word for an effect. -/
def word : Effect → Text
  | bold => "bold"
  | dim => "dim"
  | italic => "italic"
  | underline => "underline"
  | blink => "blink"
  | fastBlink => "blink2"
  | reverse => "reverse"
  | conceal => "conceal"
  | strike => "strike"
  | doubleUnderline => "underline2"
  | frame => "frame"
  | encircle => "encircle"
  | overline => "overline"

/-- The short word for an effect, if there is one. -/
def shortWord? : Effect → Option Text
  | bold => some "b"
  | dim => some "d"
  | italic => some "i"
  | underline => some "u"
  | reverse => some "r"
  | conceal => some "c"
  | strike => some "s"
  | doubleUnderline => some "uu"
  | overline => some "o"
  | _ => none

/-- The effect that a word stands for. -/
def ofWord? (s : Text) : Option Effect :=
  every.find? fun effect => effect.word = s || effect.shortWord? = some s

end Effect

/-- A style. -/
structure Style where
  /-- The effects that are switched on or off. -/
  effects : List (Effect × Bool)
  color : Option Text
  background : Option Text
  link : Option Text

/-- Why words describe no style. -/
inductive StyleProblem where
  /-- A word has no meaning. -/
  | unknown
  /-- A part of a colour is no number. -/
  | number
  deriving DecidableEq

namespace Style

/-- The style that changes nothing. -/
def plain : Style := ⟨[], none, none, none⟩

/-- The style with an effect switched on or off. -/
def set (style : Style) (effect : Effect) (on : Bool) : Style :=
  { style with
    effects := (effect, on) :: style.effects.filter fun entry => entry.1 ≠ effect }

/-! ## Colours -/

/-- What stands in brackets after a word, up to the end of a text. -/
def inBrackets? (word s : Text) : Option Text :=
  if (word ++ "(").isPrefixOf s && s.getLast? = some (')' : CodePoint) then
    some ((s.drop (word.length + 1)).dropLast)
  else none

/-- The greatest number that a part of a colour can be. -/
def maxPart : Int := 255

/-- Whether a text is the mark of a number and six digits of base sixteen. -/
def isHexColor : Text → Bool
  | [] => false
  | mark :: digits => mark = '#' && digits.length = 6 && digits.all fun d => d.hexDigit?.isSome

/-- Whether a text is the number of a colour. -/
def isColorNumber (s : Text) : Bool :=
  s ≠ [] && s.length ≤ 3 && s.all CodePoint.isDigit && Int.ofNat (Text.digitsValue s) ≤ maxPart

/-- Checks the parts of a colour: three numbers with commas between them. -/
def checkParts (s : Text) : Except StyleProblem Unit :=
  let isPart : CodePoint → Bool := fun c => (Numeral.digit? c).isSome || c = ',' || c.isBlank
  match s.all isPart, Text.splitOn ',' s with
  | true, [red, green, blue] =>
    match [red, green, blue].mapM Numeral.integer? with
    | none => .error .number
    | some parts => if parts.all (· ≤ maxPart) then .ok () else .error .unknown
  | _, _ => .error .unknown

/-- The name of the colour that a word stands for. -/
def colorOf (word : Text) : Except StyleProblem Text :=
  let name := word.lower
  if name = "default" || colorNames.contains name || isHexColor name then .ok name
  else match inBrackets? "color" name, inBrackets? "rgb" name with
    | some number, _ => if isColorNumber number then .ok name else .error .unknown
    | none, some parts => (checkParts parts).map fun _ => name
    | none, none => .error .unknown

/-! ## Descriptions -/

/-- Reads the words of a description into a style. -/
def ofWords (style : Style) : List Text → Except StyleProblem Style
  | [] => .ok style
  | word :: rest =>
    let lower := word.lower
    if lower = "on" then
      match rest with
      | [] => .error .unknown
      | color :: rest => do ofWords { style with background := some (← colorOf color) } rest
    else if lower = "not" then
      match rest with
      | [] => .error .unknown
      | word :: rest =>
        match Effect.ofWord? word with
        | some effect => ofWords (style.set effect false) rest
        | none => .error .unknown
    else if lower = "link" then
      match rest with
      | [] => .error .unknown
      | link :: rest => ofWords { style with link := some link } rest
    else match Effect.ofWord? lower with
      | some effect => ofWords (style.set effect true) rest
      | none => do ofWords { style with color := some (← colorOf lower) } rest

/-- The word for the style that changes nothing. -/
def nothing : Text := "none"

/-- Reads the description of a style. -/
def parse (s : Text) : Except StyleProblem Style :=
  if s.trim = nothing then .ok plain else ofWords plain s.words

/-- The words for an effect that is switched on or off. -/
def effectWords (effect : Effect) (on : Bool) : List Text :=
  if on then [effect.word] else ["not", effect.word]

/-- The words of the normal description of a style. -/
def words (style : Style) : List Text :=
  (Effect.every.flatMap fun effect =>
      match style.effects.find? fun entry => entry.1 = effect with
      | some (_, on) => effectWords effect on
      | none => [])
    ++ style.color.toList
    ++ (match style.background with
      | some name => ["on", name]
      | none => [])
    ++ (match style.link with
      | some link => ["link", link]
      | none => [])

/-- The normal description of a style. -/
def text (style : Style) : Text :=
  match style.words with
  | [] => nothing
  | words => Text.joinWith " " words

/-- The normal form of a description. What describes no style is a name: it goes by its lower-case
form without the white space around it. -/
def normalName (s : Text) : Except StyleProblem Text :=
  match parse s with
  | .ok style => .ok style.text
  | .error .unknown => .ok s.trim.lower
  | .error .number => .error .number

end Style

end ContentQuery.Terminal
