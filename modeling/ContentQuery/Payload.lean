import ContentQuery.Json.Reader
import ContentQuery.Json.Writer
import ContentQuery.Limits
import ContentQuery.Text.Quoted

/-!
# ContentQuery.Payload

What a document may hold as its content: nearly always a JSON value, of which a string may in turn
be JSON text or plain text; but also values that JSON cannot express, such as mappings with keys
that are no texts, octets, sets, and a container that contains itself.

Three views of a payload are given: the JSON value that it stands for, if there is one, the text by
which it is shown if there is none, and the JSON value that is written for it, where more kinds of
keys are allowed.
-/

namespace ContentQuery

/-- A key of a mapping. -/
inductive Key where
  | text (value : Text)
  | int (value : Int)
  | null

/-- The kinds of containers that can hold themselves. -/
inductive Container where
  | list
  | tuple
  | mapping
  deriving DecidableEq

/-- The content of a document. -/
inductive Payload where
  | json (value : Json)
  /-- A list that holds more than JSON values. -/
  | list (items : List Payload)
  /-- A list of fixed length; it stands for the same JSON value as a list. -/
  | tuple (items : List Payload)
  | mapping (fields : List (Key × Payload))
  | octets (bytes : List UInt8)
  | set (items : List Payload)
  /-- The place where a container of some kind holds itself. -/
  | loop (kind : Container)

/-! ## The JSON value -/

namespace Json

mutual

/-- Whether a NaN occurs in a value; JSON proper has none. -/
def hasNaN : Json → Bool
  | float x => x.isNaN
  | array items => itemsHaveNaN items
  | object fields => fieldsHaveNaN fields
  | _ => false

/-- Whether a NaN occurs in one of the items. -/
def itemsHaveNaN : List Json → Bool
  | [] => false
  | item :: rest => hasNaN item || itemsHaveNaN rest

/-- Whether a NaN occurs in one of the fields. -/
def fieldsHaveNaN : List (Text × Json) → Bool
  | [] => false
  | (_, value) :: rest => hasNaN value || fieldsHaveNaN rest

end

end Json

namespace Payload

mutual

/-- The JSON value that a payload stands for; none if some part of it is no JSON. -/
def toJson? : Payload → Option Json
  | json value => if value.hasNaN then none else some value
  | list items => (itemsToJson? items).map .array
  | tuple items => (itemsToJson? items).map .array
  | mapping fields => (fieldsToJson? fields).map .object
  | octets _ => none
  | set _ => none
  | loop _ => none

/-- The JSON values of all items, if all have one. -/
def itemsToJson? : List Payload → Option (List Json)
  | [] => some []
  | item :: rest => do
    let value ← toJson? item
    let values ← itemsToJson? rest
    return value :: values

/-- The JSON values of all fields, if all have one and all keys are texts. -/
def fieldsToJson? : List (Key × Payload) → Option (List (Text × Json))
  | [] => some []
  | (.text name, field) :: rest => do
    let value ← toJson? field
    let values ← fieldsToJson? rest
    return (name, value) :: values
  | _ => none

end

end Payload

/-! ## Nesting -/

namespace Json

mutual

/-- How many arrays and objects stand around each other in a value. -/
def depth : Json → Nat
  | array items => itemsDepth items + 1
  | object fields => fieldsDepth fields + 1
  | _ => 0

/-- The depth of the deepest item. -/
def itemsDepth : List Json → Nat
  | [] => 0
  | item :: rest => max (depth item) (itemsDepth rest)

/-- The depth of the deepest field. -/
def fieldsDepth : List (Text × Json) → Nat
  | [] => 0
  | (_, value) :: rest => max (depth value) (fieldsDepth rest)

end

end Json

namespace Payload

mutual

/-- How many containers stand around each other in a payload. -/
def depth : Payload → Nat
  | json value => value.depth
  | list items => itemsDepth items + 1
  | tuple items => itemsDepth items + 1
  | mapping fields => fieldsDepth fields + 1
  | set items => itemsDepth items + 1
  | octets _ => 0
  | loop _ => 0

/-- The depth of the deepest item. -/
def itemsDepth : List Payload → Nat
  | [] => 0
  | item :: rest => max (depth item) (itemsDepth rest)

/-- The depth of the deepest field. -/
def fieldsDepth : List (Key × Payload) → Nat
  | [] => 0
  | (_, value) :: rest => max (depth value) (fieldsDepth rest)

end

/-- The JSON value that a payload is taken for. A payload that is nested beyond the room for it is
taken for none. -/
def root? [Limits] (payload : Payload) : Option Json :=
  if payload.depth ≤ Limits.contentValue then payload.toJson? else none

end Payload

/-! ## Showing -/

/-- Why there is no text by which a payload could be shown. -/
inductive ShowError where
  /-- An integer has more digits than are converted. -/
  | longInteger
  /-- Containers are nested beyond the bound. -/
  | tooDeep
  deriving DecidableEq

/-- Goes one container further in, if there is room for one. -/
def ShowError.inside {α : Type} (room : Nat) (go : Nat → Except ShowError α) :
    Except ShowError α :=
  match room with
  | 0 => .error .tooDeep
  | room + 1 => go room

/-- Texts between brackets, with commas between them. -/
def Text.enclose (left right : Text) (items : List Text) : Text :=
  left ++ Text.joinWith ", " items ++ right

namespace Json

/-- Whether an integer has more digits than are converted. -/
def isLong (n : Int) : Bool := maxDigits < (Text.ofNat n.natAbs).length

/-- The text of an integer. -/
def intShown (n : Int) : Except ShowError Text :=
  if isLong n then .error .longInteger else .ok (Text.ofInt n)

mutual

/-- The text by which a value inside a container is shown, with room for a number of containers
around each other. -/
def shown (room : Nat) : Json → Except ShowError Text
  | null => .ok "None"
  | bool true => .ok "True"
  | bool false => .ok "False"
  | int n => intShown n
  | float x => .ok x.shown
  | string s => .ok s.quoted
  | array items =>
    ShowError.inside room fun room => return Text.enclose "[" "]" (← itemsShown room items)
  | object fields =>
    ShowError.inside room fun room => return Text.enclose "\x7b" "\x7d" (← fieldsShown room fields)

/-- The texts of items. -/
def itemsShown (room : Nat) : List Json → Except ShowError (List Text)
  | [] => .ok []
  | item :: rest => return (← shown room item) :: (← itemsShown room rest)

/-- The texts of fields. -/
def fieldsShown (room : Nat) : List (Text × Json) → Except ShowError (List Text)
  | [] => .ok []
  | (name, value) :: rest =>
    return (name.quoted ++ ": " ++ (← shown room value)) :: (← fieldsShown room rest)

end

end Json

namespace Payload

/-- The text of a key. -/
def keyShown : Key → Except ShowError Text
  | .text s => .ok s.quoted
  | .int n => Json.intShown n
  | .null => .ok "None"

/-- One octet between quotes: a character of ASCII as such, any other octet by its number. -/
def octetShown (quote : CodePoint) (b : UInt8) : Text :=
  let c : CodePoint := ⟨b.toNat, Nat.lt_trans b.toNat_lt (by decide)⟩
  if c.val < 0x7F then Quoted.escape quote c else "\\x" ++ Text.ofNatHex 2 b.toNat

/-- The text of a run of octets. -/
def octetsShown (bytes : List UInt8) : Text :=
  let quote : CodePoint := if bytes.contains 39 && !bytes.contains 34 then '"' else '\''
  "b" ++ (quote :: bytes.flatMap (octetShown quote)) ++ [quote]

/-- The text of a list of fixed length. A single item is followed by a comma. -/
def tupleShown : List Text → Text
  | [item] => "(" ++ item ++ ",)"
  | items => Text.enclose "(" ")" items

/-- The text in the place where a container holds itself. -/
def loopShown : Container → Text
  | .list => "[...]"
  | .tuple => "(...)"
  | .mapping => "\x7b...\x7d"

/-- The text of a set; brackets with nothing between them would be a mapping. -/
def setShown : List Text → Text
  | [] => "set()"
  | items => Text.enclose "\x7b" "\x7d" items

mutual

/-- The text by which a payload inside a container is shown, with room for a number of containers
around each other. -/
def shown (room : Nat) : Payload → Except ShowError Text
  | json value => value.shown room
  | list items =>
    ShowError.inside room fun room => return Text.enclose "[" "]" (← itemsShown room items)
  | tuple items => ShowError.inside room fun room => return tupleShown (← itemsShown room items)
  | mapping fields =>
    ShowError.inside room fun room => return Text.enclose "\x7b" "\x7d" (← fieldsShown room fields)
  | octets bytes => .ok (octetsShown bytes)
  | set items => ShowError.inside room fun room => return setShown (← itemsShown room items)
  | loop kind => .ok (loopShown kind)

/-- The texts of items. -/
def itemsShown (room : Nat) : List Payload → Except ShowError (List Text)
  | [] => .ok []
  | item :: rest => return (← shown room item) :: (← itemsShown room rest)

/-- The texts of fields. -/
def fieldsShown (room : Nat) : List (Key × Payload) → Except ShowError (List Text)
  | [] => .ok []
  | (key, value) :: rest =>
    return ((← keyShown key) ++ ": " ++ (← shown room value)) :: (← fieldsShown room rest)

end

/-! ## Writing -/

/-- Why no JSON can be written for a payload. -/
inductive WriteError where
  /-- A container holds itself. -/
  | circular
  /-- There is no JSON for a value of this type. -/
  | noJson
  deriving DecidableEq

/-- The name of a field that is written for a key. -/
def keyName : Key → Text
  | .text s => s
  | .int n => Text.ofInt n
  | .null => "null"

mutual

/-- The JSON value that is written for a payload. Keys that are no texts are taken by their
names. -/
def written : Payload → Except WriteError Json
  | json value => .ok value
  | list items => return .array (← itemsWritten items)
  | tuple items => return .array (← itemsWritten items)
  | mapping fields => return .object (← fieldsWritten fields)
  | octets _ => .error .noJson
  | set _ => .error .noJson
  | loop _ => .error .circular

/-- The JSON values that are written for items. -/
def itemsWritten : List Payload → Except WriteError (List Json)
  | [] => .ok []
  | item :: rest => return (← written item) :: (← itemsWritten rest)

/-- The fields that are written for those of a mapping. -/
def fieldsWritten : List (Key × Payload) → Except WriteError (List (Text × Json))
  | [] => .ok []
  | (key, value) :: rest => return (keyName key, ← written value) :: (← fieldsWritten rest)

end

end Payload

end ContentQuery
