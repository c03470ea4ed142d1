import ContentQuery.Toml
import ContentQuery.Toml.Text

/-!
# ContentQuery.Toml.Writer

Writing TOML documents that consist of sections with one pair on each line.
-/

namespace ContentQuery.Toml

/-- A value that is written into a section. -/
inductive Plain where
  | string (value : Text)
  | integer (value : Int)
  | boolean (value : Bool)

/-- The text of a value. -/
def Plain.text : Plain → Text
  | string s => writeString s
  | integer n => Text.ofInt n
  | boolean true => "true"
  | boolean false => "false"

/-- A table under a header of its own. -/
structure Section where
  name : Text
  pairs : List (Text × Plain)

/-- The line of a pair. -/
def writePair (pair : Text × Plain) : Text := pair.1 ++ " = " ++ pair.2.text ++ "\n"

/-- The lines of a section. -/
def Section.text (s : Section) : Text := "[" ++ s.name ++ "]\n" ++ s.pairs.flatMap writePair

/-- The text of a document: its sections, with an empty line between neighbours. -/
def write (sections : List Section) : Text := Text.joinWith "\n" (sections.map Section.text)

/-- A way to write documents. -/
class Writer where
  write : List Section → Text

/-- The way of the program. -/
instance Writer.usual : Writer where
  write := Toml.write

end ContentQuery.Toml
