import ContentQuery.Terminal.Emoji.Table
import ContentQuery.Text.Blank
import ContentQuery.Text.Case

/-!
# ContentQuery.Terminal.Emoji

Pictures by name: a name between colons, such as `:smile:`, is replaced by the picture it stands
for.
-/

namespace ContentQuery.Terminal.Emoji

/-- Pairs of neighbours. -/
def pairs : List Text → List (Text × Text)
  | name :: picture :: rest => (name, picture) :: pairs rest
  | _ => []

/-- The pictures by name. -/
def table : List (Text × Text) := pairs (Text.words listing)

/-- The picture that a name in any letter case stands for. -/
def picture? (name : Text) : Option Text :=
  let lower := name.lower
  (table.find? fun entry => entry.1 = lower).map (·.2)

/-- The endings of a name that choose between the forms of a picture, each with its selector. -/
def forms : List (Text × Text) := [("-emoji", [.ofNat 0xFE0F]), ("-text", [.ofNat 0xFE0E])]

/-- A name without the ending that chooses a form, and the selector of the form. -/
def splitForm (name : Text) : Text × Text :=
  match forms.find? fun form => form.1.isSuffixOf name with
  | some (ending, selector) => (name.take (name.length - ending.length), selector)
  | none => (name, [])

/-- The picture for what stands between two colons. -/
def replacement? (body : Text) : Option Text :=
  let (name, selector) := splitForm body
  (picture? name).map (· ++ selector)

/-- The mark before and after a name. -/
def colon : CodePoint := ':'

/-- What stands before the next colon, and the text after it; none if white space comes before. -/
def upToColon? : Text → Option (Text × Text)
  | [] => none
  | c :: rest =>
    if c = colon then some ([], rest)
    else if c.isBlank then none
    else (upToColon? rest).map fun (body, after) => (c :: body, after)

/-- Replaces names from left to right; `limit` bounds the number of steps. What stands between two
colons and names no picture stays, with both colons. -/
def replaceFrom : (limit : Nat) → Text → Text
  | 0, s => s
  | _, [] => []
  | limit + 1, c :: rest =>
    match if c = colon then upToColon? rest else none with
    | none => c :: replaceFrom limit rest
    | some (body, after) =>
      (replacement? body).getD (colon :: body ++ [colon]) ++ replaceFrom limit after

/-- The text with pictures in the place of their names. -/
def replace (s : Text) : Text := replaceFrom s.length s

end ContentQuery.Terminal.Emoji
