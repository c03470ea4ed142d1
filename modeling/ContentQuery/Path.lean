import ContentQuery.Decimal
import ContentQuery.Json

/-!
# ContentQuery.Path

Paths into JSON values: components with points between them, each a name of a field, an index of an
item, or the sign for the length of an array. A backslash takes the character after it as part of
the component, so that names can hold points.
-/

namespace ContentQuery.Path

/-- Puts a character in front of the first component. -/
def consFirst (c : CodePoint) : List Text → List Text
  | [] => [[c]]
  | component :: rest => (c :: component) :: rest

/-- The components of a path. A backslash at the very end adds nothing. -/
def components : Text → List Text
  | [] => [[]]
  | c :: rest =>
    if c = '\\' then
      match rest with
      | [] => [[]]
      | escaped :: rest => consFirst escaped (components rest)
    else if c = '.' then [] :: components rest
    else consFirst c (components rest)

theorem consFirst_ne_nil (c : CodePoint) (components : List Text) :
    consFirst c components ≠ [] := by
  cases components <;> exact List.cons_ne_nil _ _

theorem components_ne_nil (path : Text) : components path ≠ [] := by
  fun_cases components path with
  | case1 => exact List.cons_ne_nil _ _
  | case2 => exact List.cons_ne_nil _ _
  | case3 => exact consFirst_ne_nil _ _
  | case4 => exact List.cons_ne_nil _ _
  | case5 => exact consFirst_ne_nil _ _

/-- The component that stands for the length of an array. -/
def lengthSign : Text := "#"

/-- An index with more digits than are converted. -/
inductive StepError where
  | longIndex
  deriving DecidableEq

/-- The most digits an index may have. -/
def maxIndexDigits : Nat := 4300

/-- The item of an array that a component stands for: its length, or the item at an index. -/
def item? (items : List Json) (component : Text) : Except StepError (Option Json) :=
  if component = lengthSign then .ok (some (.int items.length))
  else if Decimal.isDigits component then
    if component.length ≤ maxIndexDigits then .ok items[Text.digitsValue component]?
    else .error .longIndex
  else .ok none

/-- The value one component below a value. -/
def child? (value : Json) (component : Text) : Except StepError (Option Json) :=
  match value with
  | .object fields => .ok (fieldOf? fields component)
  | .array items => item? items component
  | _ => .ok none

/-- The value that components lead to, one after the other. -/
def follow? (value : Json) : List Text → Except StepError (Option Json)
  | [] => .ok (some value)
  | component :: rest => do
    match ← child? value component with
    | none => return none
    | some value => follow? value rest

/-- The value that a path leads to; the empty path leads to the value itself. -/
def resolve? (root : Json) (path : Text) : Except StepError (Option Json) :=
  if path = [] then .ok (some root) else follow? root (components path)

end ContentQuery.Path
