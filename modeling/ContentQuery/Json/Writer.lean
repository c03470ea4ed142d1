import ContentQuery.Binary64.Shortest
import ContentQuery.Json

/-!
# ContentQuery.Json.Writer

Writing JSON text, on one line or indented.
-/

namespace ContentQuery.Json

/-- How a value is laid out. -/
structure Style where
  /-- Whether every code point beyond ASCII is escaped. -/
  ascii : Bool
  /-- The step of indentation; without one the text is a single line. -/
  indent : Option Nat

/-- One line of ASCII, the form that is stored. -/
def Style.stored : Style := ⟨true, none⟩

/-- One line with every printable character as it is. -/
def Style.line : Style := ⟨false, none⟩

/-- Indented by two, for a reader. -/
def Style.indented : Style := ⟨false, some 2⟩

/-! ## Scalars -/

/-- An escape by number: one unit of sixteen bits. -/
def unitEscape (n : Nat) : Text := "\\u" ++ Text.ofNatHex 4 n

/-- One code point inside a string literal. -/
def escape (ascii : Bool) (c : CodePoint) : Text :=
  if c = '"' then "\\\""
  else if c = '\\' then "\\\\"
  else if c = '\n' then "\\n"
  else if c = '\r' then "\\r"
  else if c = '\t' then "\\t"
  else if c.val = 0x08 then "\\b"
  else if c.val = 0x0C then "\\f"
  else if c.val < 0x20 then unitEscape c.val
  else if ascii && 0x7F ≤ c.val then
    if c.val < 0x10000 then unitEscape c.val
    else
      unitEscape (0xD800 + (c.val - 0x10000) / 0x400) ++
        unitEscape (0xDC00 + (c.val - 0x10000) % 0x400)
  else [c]

/-- A string literal. -/
def writeString (ascii : Bool) (s : Text) : Text := "\"" ++ s.flatMap (escape ascii) ++ "\""

/-- The text of a number of the binary format. -/
def writeFloat (x : Binary64) : Text := x.toText ("NaN", "Infinity")

/-! ## Arrays and objects -/

/-- A line break and the indentation of a level; nothing in a text of one line. -/
def Style.newline (style : Style) (level : Nat) : Text :=
  match style.indent with
  | none => []
  | some step => '\n' :: List.replicate (step * level) (' ' : CodePoint)

/-- What stands between two items. -/
def Style.separator (style : Style) (level : Nat) : Text :=
  match style.indent with
  | none => ", "
  | some _ => ',' :: style.newline level

/-- Items between brackets; `level` is the level of the brackets. -/
def Style.enclose (style : Style) (level : Nat) (left right : CodePoint)
    (items : List Text) : Text :=
  match items with
  | [] => [left, right]
  | _ :: _ =>
    left :: style.newline (level + 1) ++ Text.joinWith (style.separator (level + 1)) items ++
      style.newline level ++ [right]

mutual

/-- The text of a value whose brackets stand at `level`. -/
def writeAt (style : Style) (level : Nat) : Json → Text
  | null => "null"
  | bool true => "true"
  | bool false => "false"
  | int n => Text.ofInt n
  | float x => writeFloat x
  | string s => writeString style.ascii s
  | array items => style.enclose level '[' ']' (writeItems style (level + 1) items)
  | object fields =>
    style.enclose level '{' '}' (writeFields style (level + 1) fields)

/-- The texts of the items of an array. -/
def writeItems (style : Style) (level : Nat) : List Json → List Text
  | [] => []
  | item :: rest => writeAt style level item :: writeItems style level rest

/-- The texts of the fields of an object. -/
def writeFields (style : Style) (level : Nat) : List (Text × Json) → List Text
  | [] => []
  | (name, value) :: rest =>
    (writeString style.ascii name ++ ": " ++ writeAt style level value) ::
      writeFields style level rest

end

/-- The text of a value. -/
def write (style : Style) (value : Json) : Text := writeAt style 0 value

end ContentQuery.Json
