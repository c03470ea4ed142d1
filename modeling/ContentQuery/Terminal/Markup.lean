import ContentQuery.Terminal.Action
import ContentQuery.Terminal.Emoji
import ContentQuery.Terminal.Style

/-!
# ContentQuery.Terminal.Markup

Messages with tags in square brackets.

A tag such as `[bold]` styles what follows it, up to the tag `[/bold]`, or `[/]`, that closes it. A
tag may have a value after an equals sign; the value of a tag that begins with `@` is an action.
Backslashes before a tag keep it from being one. On a terminal without colours a message comes down
to the text between its tags.
-/

namespace ContentQuery.Terminal

/-- What is wrong with the tags of a message. -/
inductive MarkupError where
  /-- A tag that closes none of the open ones. -/
  | unmatched (tag : Text)
  /-- A value that is no action. -/
  | badAction (value : Text)
  /-- The name of a tag has a colour with a part that is no number. -/
  | badNumber
  deriving DecidableEq

namespace Markup

/-! ## Tags -/

/-- Whether a tag can begin with a code point. -/
def beginsTag (c : CodePoint) : Bool := ('a' ≤ c && c ≤ 'z') || c = '#' || c = '/' || c = '@'

/-- What stands before the closing bracket, and the text after it; none if another bracket opens
before. -/
def upToBracket? : Text → Option (Text × Text)
  | [] => none
  | c :: rest =>
    if c = ']' then some ([], rest)
    else if c = '[' then none
    else (upToBracket? rest).map fun (name, after) => (c :: name, after)

/-- The tag at the front of a text, after its opening bracket, and the text after its closing
bracket. -/
def tag? : Text → Option (Text × Text)
  | [] => none
  | c :: rest =>
    if beginsTag c then (upToBracket? rest).map fun (name, after) => (c :: name, after) else none

/-- A piece of a message. -/
inductive Piece where
  | text (s : Text)
  | tag (name : Text)
  deriving DecidableEq

/-- A text before pieces; no piece is made of the empty text. -/
def textPiece (s : Text) (pieces : List Piece) : List Piece :=
  if s = [] then pieces else .text s :: pieces

/-- A run of backslashes. -/
def backslashes (n : Nat) : Text := List.replicate n ('\\' : CodePoint)

/-- A tag as it is written. -/
def written (name : Text) : Text := "[" ++ name ++ "]"

/-- The text before the first tag of a message, and the pieces from that tag on. `slashes` is the
number of backslashes just before, and `limit` bounds the number of steps. Of the backslashes before
a tag every second one is text, and an odd one makes the tag text. -/
def piecesFrom (slashes : Nat) : (limit : Nat) → Text → Text × List Piece
  | 0, s => (backslashes slashes ++ s, [])
  | _, [] => (backslashes slashes, [])
  | limit + 1, c :: rest =>
    if c = '\\' then piecesFrom (slashes + 1) limit rest
    else match if c = '[' then tag? rest else none with
      | none =>
        let (plain, later) := piecesFrom 0 limit rest
        (backslashes slashes ++ c :: plain, later)
      | some (name, after) =>
        let (plain, later) := piecesFrom 0 limit after
        let here := if slashes % 2 = 1 then Piece.text (written name) else .tag name
        ([], textPiece (backslashes (slashes / 2)) (here :: textPiece plain later))

/-- The pieces of a message. -/
def pieces (s : Text) : List Piece :=
  let (plain, later) := piecesFrom 0 (s.length + 1) s
  textPiece plain later

/-! ## Escaping -/

/-- Doubles the backslashes before tags, and puts one more before each tag. -/
def escapeFrom (slashes : Nat) : Text → Text
  | [] => backslashes slashes
  | c :: rest =>
    if c = '\\' then escapeFrom (slashes + 1) rest
    else if c = '[' && (tag? rest).isSome then
      backslashes (2 * slashes + 1) ++ c :: escapeFrom 0 rest
    else backslashes slashes ++ c :: escapeFrom 0 rest

/-- The number of backslashes at the end of a text. -/
def trailingSlashes (s : Text) : Nat := (s.reverse.takeWhile fun (c : CodePoint) => c = '\\').length

/-- A message that shows a text as it is. A single backslash at the end is doubled, because a tag
could follow it. -/
def escape (s : Text) : Text :=
  let escaped := escapeFrom 0 s
  if trailingSlashes escaped = 1 then escaped ++ "\\" else escaped

/-! ## Rendering -/

/-- A tag that has been opened. -/
structure OpenTag where
  /-- The normal form of its name. -/
  name : Text
  /-- What stands after the equals sign, if there is one. -/
  value : Option Text
  deriving DecidableEq

/-- What stands before an equals sign. -/
def nameOf (tag : Text) : Text := tag.takeWhile fun (c : CodePoint) => c ≠ '='

/-- What stands after an equals sign, if there is one. -/
def valueOf? (tag : Text) : Option Text := (tag.dropWhile fun (c : CodePoint) => c ≠ '=').tail?

/-- The normal form of a name. -/
def normalName (name : Text) : Except MarkupError Text :=
  (Style.normalName name).mapError fun _ => .badNumber

/-- Opens a tag. -/
def OpenTag.ofTag (tag : Text) : Except MarkupError OpenTag :=
  return ⟨← normalName (nameOf tag), valueOf? tag⟩

namespace OpenTag

/-- Whether a tag names an action. -/
def isActive (tag : OpenTag) : Bool := tag.name.head? = some ('@' : CodePoint)

/-- Checks a tag that is closed: its action has to be one. -/
def check (tag : OpenTag) : Except MarkupError Unit :=
  match tag.value with
  | some (c :: rest) =>
    if tag.isActive && !Action.isAction (c :: rest) then .error (.badAction (c :: rest))
    else .ok ()
  | _ => .ok ()

/-- The description of the style that a tag asks for: its value is the last word. -/
def description (tag : OpenTag) : Text :=
  match tag.value with
  | some value => tag.name ++ " " ++ value
  | none => tag.name

end OpenTag

/-- Drops the backslashes directly before opening brackets. -/
def dropEscapes : Text → Text
  | [] => []
  | c :: rest =>
    if c = '\\' && rest.head? = some ('[' : CodePoint) then dropEscapes rest
    else c :: dropEscapes rest

/-- Controls that move the cursor back or ring the bell, which are never shown. -/
def isDropped (c : CodePoint) : Bool :=
  c.val = 7 || c.val = 8 || c.val = 11 || c.val = 12 || c.val = 13

/-- A text without the controls that are never shown. -/
def withoutControls (s : Text) : Text := s.filter fun c => !isDropped c

/-- Closes the last open tag with a name, or the last one if no name is given. The other tags stay
open. -/
def close (opened : List OpenTag) (tag : Text) : Except MarkupError (List OpenTag) := do
  let written := Text.trim (nameOf tag)
  let wanted ← normalName written
  match opened.find? fun tag => written = [] || tag.name = wanted with
  | none => throw (.unmatched tag)
  | some closed =>
    closed.check
    return opened.erase closed

/-- The text of pieces. `opened` holds the tags that are open, the last one first. -/
def renderPieces (opened : List OpenTag) : List Piece → Except MarkupError Text
  | [] => .ok []
  | .text s :: rest =>
    return withoutControls (Emoji.replace (dropEscapes s)) ++ (← renderPieces opened rest)
  | .tag (c :: closing) :: rest => do
    if c = '/' then renderPieces (← close opened closing) rest
    else renderPieces ((← OpenTag.ofTag (c :: closing)) :: opened) rest
  | .tag [] :: rest => renderPieces opened rest

/-- Checks the style that a piece asks for together with its value. -/
def checkStyle : Piece → Except MarkupError Unit
  | .text _ => .ok ()
  | .tag tag => do
    if tag.head? = some ('/' : CodePoint) then return
    let opened ← OpenTag.ofTag tag
    if !opened.isActive then
      let _ ← normalName opened.description

/-- The text of a message. -/
def render (s : Text) : Except MarkupError Text :=
  if s.contains ('[' : CodePoint) then do
    let text ← renderPieces [] (pieces s)
    (pieces s).forM checkStyle
    return text
  else .ok (withoutControls (Emoji.replace s))

end Markup

end ContentQuery.Terminal
