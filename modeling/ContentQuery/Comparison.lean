import ContentQuery.Condition
import ContentQuery.Content
import ContentQuery.Path

/-!
# ContentQuery.Comparison

What a condition says of a value.

The type of the target decides first, then the operation. A literal of another type than the target
never matches: "not equals" holds, and every other operation is an error. Null and membership in an
array have rules of their own.
-/

namespace ContentQuery

/-- The types of JSON values, integers and other numbers being one. -/
inductive JsonType where
  | string
  | number
  | bool
  | null
  | array
  | object
  deriving DecidableEq

/-- The type of a value. -/
def Json.type : Json → JsonType
  | .null => .null
  | .bool _ => .bool
  | .int _ => .number
  | .float _ => .number
  | .string _ => .string
  | .array _ => .array
  | .object _ => .object

/-- Whether a value is a string, a number or a truth value. At the root such a value is treated like
plain text. -/
def Json.isScalar (value : Json) : Bool :=
  match value.type with
  | .string | .number | .bool => true
  | _ => false

namespace Comparison

variable (cond : Condition)

/-- A mismatch, as an error that names the condition's operation. -/
def mismatch {α : Type} (cause : Text → Mismatch) : Except QueryError α :=
  .error (.mismatch (cause cond.operation.name))

/-- Compares texts; `kind` says what the target is. -/
def withText (kind target : Text) : Except QueryError Bool :=
  match cond.literal with
  | .string value =>
    if cond.operation.insensitive then
      .ok (cond.operation.operator.testStrings target.lower value.lower)
    else .ok (cond.operation.operator.testStrings target value)
  | literal =>
    if cond.operation.operator = .notEquals then .ok true
    else mismatch cond (.notString kind literal.typeName)

/-- Compares plain text as one string. -/
def withPlainText (s : Text) : Except QueryError Bool :=
  if cond.operation.operator.onStrings then withText cond "plain text" s
  else .error (.unsupported cond.operation.name)

/-- Compares a string value. -/
def withString (s : Text) : Except QueryError Bool :=
  if cond.operation.operator.onStrings then withText cond "string" s
  else mismatch cond .numericOnString

/-- Compares a number. -/
def withNumber (x : Binary64) : Except QueryError Bool :=
  if !cond.operation.operator.onNumbers then mismatch cond .stringOnNumber
  else if cond.operation.insensitive then mismatch cond .insensitiveNumber
  else match cond.literal with
    | .number value => .ok (cond.operation.operator.testNumbers x value)
    | literal =>
      if cond.operation.operator = .notEquals then .ok true
      else mismatch cond (.notNumber literal.display)

/-- Compares a truth value. -/
def withBool (b : Bool) : Except QueryError Bool :=
  if !cond.operation.operator.onBools then mismatch cond .notOnBool
  else if cond.operation.insensitive then mismatch cond .insensitiveBool
  else match cond.literal with
    | .bool value => .ok (if cond.operation.operator = .equals then b = value else b ≠ value)
    | literal =>
      if cond.operation.operator = .notEquals then .ok true
      else mismatch cond (.notBool literal.display)

/-- Compares an array by anything but membership: never possible. -/
def withArray : Except QueryError Bool :=
  if cond.operation.operator.onBools then mismatch cond .wholeArray
  else mismatch cond .notOnArray

/-- Compares an object: never possible, but the whole content neither equals a literal nor is said
to differ from it. -/
def withObject : Except QueryError Bool :=
  if cond.path = [] && cond.operation.operator.onBools then .ok false
  else mismatch cond .wholeObject

/-- Compares where both the target and the literal are null. -/
def nullWithNull : Except QueryError Bool :=
  match cond.operation.operator with
  | .equals => .ok true
  | .notEquals => .ok false
  | _ => mismatch cond .bothNull

/-- Compares where one of the target and the literal is null and the other is not. -/
def nullWithOther : Except QueryError Bool :=
  match cond.operation.operator with
  | .equals => .ok false
  | .contains => .ok false
  | .notEquals => .ok true
  | _ => mismatch cond .oneNull

/-- Whether an item of an array is the literal: of the same type and with the same value. -/
def isItem : Json → Bool
  | .string s =>
    match cond.literal with
    | .string value => if cond.operation.insensitive then s.lower = value.lower else s = value
    | _ => false
  | .int n =>
    match cond.literal with
    | .number value => (Binary64.ofInt n).eq value
    | _ => false
  | .float x =>
    match cond.literal with
    | .number value => x.eq value
    | _ => false
  | .bool b =>
    match cond.literal with
    | .bool value => b = value
    | _ => false
  | .null => cond.literal = .null
  | .array _ => false
  | .object _ => false

/-- Compares a value that is not null with a literal that is not null. -/
def withType : Json → Except QueryError Bool
  | .string s => withString cond s
  | .int n => withNumber cond (Binary64.ofInt n)
  | .float x => withNumber cond x
  | .bool b => withBool cond b
  | .array _ => withArray cond
  | .object _ => withObject cond
  | .null => nullWithOther cond

/-- Compares a value. An operation for numbers is refused by a scalar at the root, as plain text
refuses it. -/
def withValue (target : Json) : Except QueryError Bool :=
  if cond.path = [] && target.isScalar && !cond.operation.operator.onStrings then
    .error (.unsupported cond.operation.name)
  else
    match target, cond.operation.operator with
    | .array items, .contains => .ok (items.any (isItem cond))
    | .null, _ => if cond.literal = .null then nullWithNull cond else nullWithOther cond
    | target, _ => if cond.literal = .null then nullWithOther cond else withType cond target

end Comparison

end ContentQuery
