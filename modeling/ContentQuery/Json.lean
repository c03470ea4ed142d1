import ContentQuery.Binary64
import ContentQuery.Text

/-!
# ContentQuery.Json

JSON values. Integers and numbers of the binary format are kept apart, because they are written
differently; a number may also be an infinity or a NaN, which some JSON files hold. The fields of an
object are in the order of the file, and their names are distinct.
-/

namespace ContentQuery

/-- A JSON value. -/
inductive Json where
  | null
  | bool (value : Bool)
  | int (value : Int)
  | float (value : Binary64)
  | string (value : Text)
  | array (items : List Json)
  | object (fields : List (Text × Json))

/-- The value that a list of named values gives for a name. -/
def fieldOf? {α : Type} (fields : List (Text × α)) (name : Text) : Option α :=
  (fields.find? fun field => field.1 = name).map (·.2)

/-- The list with a name bound to a value: in the place of the old value, or else at the end. -/
def setField {α : Type} (fields : List (Text × α)) (name : Text) (value : α) : List (Text × α) :=
  match fields with
  | [] => [(name, value)]
  | (other, old) :: rest =>
    if other = name then (name, value) :: rest else (other, old) :: setField rest name value

/-- Binds each name in turn. A repeated name keeps its first place and its last value. -/
def distinctFields {α : Type} (fields : List (Text × α)) : List (Text × α) :=
  fields.foldl (fun known field => setField known field.1 field.2) []

theorem fieldOf?_setField_self {α : Type} (fields : List (Text × α)) (name : Text) (value : α) :
    fieldOf? (setField fields name value) name = some value := by
  induction fields with
  | nil => simp [setField, fieldOf?]
  | cons field rest ih =>
    obtain ⟨other, old⟩ := field
    by_cases h : other = name
    · simp [setField, h, fieldOf?]
    · simpa [setField, h, fieldOf?] using ih

theorem fieldOf?_setField_of_ne {α : Type} (fields : List (Text × α)) (value : α)
    {name other : Text} (h : other ≠ name) :
    fieldOf? (setField fields name value) other = fieldOf? fields other := by
  induction fields with
  | nil => simp [setField, fieldOf?, h.symm]
  | cons field rest ih =>
    obtain ⟨first, old⟩ := field
    by_cases hf : first = name
    · subst hf; simp [setField, fieldOf?, h.symm]
    · by_cases ho : first = other
      · subst ho; simp [setField, hf, fieldOf?]
      · simpa [setField, hf, fieldOf?, ho] using ih

namespace Json

/-- The value of a field, if the value is an object that has it. -/
def field? (name : Text) : Json → Option Json
  | object fields => fieldOf? fields name
  | _ => none

/-- The values that stand for "nothing": null, false, zero and everything empty. -/
def isBlank : Json → Bool
  | null => true
  | bool b => !b
  | int n => n = 0
  | float x => x.eq (.zero false)
  | string s => s.isEmpty
  | array items => items.isEmpty
  | object fields => fields.isEmpty

end Json

end ContentQuery
