import ContentQuery.Binary64
import ContentQuery.Text

/-!
# ContentQuery.Operation

The comparisons that a condition can name.

An operation is an operator with a flag for ignoring letter case. The flag exists for the operators
that compare strings only, and it is part of the operation's name.
-/

namespace ContentQuery

/-- A comparison between a target value and a literal. -/
inductive Operator where
  | equals
  | notEquals
  | greaterThan
  | lessThan
  | greaterThanOrEquals
  | lessThanOrEquals
  | contains
  | startsWith
  | endsWith
  deriving DecidableEq

namespace Operator

/-- Every operator. -/
def all : List Operator :=
  [equals, notEquals, greaterThan, lessThan, greaterThanOrEquals, lessThanOrEquals, contains,
    startsWith, endsWith]

theorem mem_all (op : Operator) : op ∈ all := by cases op <;> decide

/-- The word for an operator in a query. -/
def name : Operator → Text
  | equals => "equals"
  | notEquals => "notequals"
  | greaterThan => "greaterthan"
  | lessThan => "lessthan"
  | greaterThanOrEquals => "greaterthanorequals"
  | lessThanOrEquals => "lessthanorequals"
  | contains => "contains"
  | startsWith => "startswith"
  | endsWith => "endswith"

/-- The operator with a given name. -/
def ofName? (word : Text) : Option Operator := all.find? fun op => op.name = word

theorem ofName?_name (op : Operator) : ofName? op.name = some op := by cases op <;> decide

theorem eq_name_of_ofName? {word : Text} {op : Operator} (h : ofName? word = some op) :
    word = op.name := by
  have : op.name = word := by simpa using List.find?_some h
  exact this.symm

/-- Whether the operator compares strings. These are also the only ones for plain text. -/
def onStrings : Operator → Bool
  | equals | notEquals | contains | startsWith | endsWith => true
  | _ => false

/-- Whether the operator compares numbers. -/
def onNumbers : Operator → Bool
  | contains | startsWith | endsWith => false
  | _ => true

/-- Whether the operator compares truth values. -/
def onBools : Operator → Bool
  | equals | notEquals => true
  | _ => false

/-- What an operator on strings says of a target and a value. -/
def testStrings : Operator → (target value : Text) → Bool
  | equals, target, value => target = value
  | notEquals, target, value => target ≠ value
  | contains, target, value => value.occursIn target
  | startsWith, target, value => value.isPrefixOf target
  | endsWith, target, value => value.isSuffixOf target
  | _, _, _ => false

/-- What an operator on numbers says of a target and a value. -/
def testNumbers : Operator → (target value : Binary64) → Bool
  | equals, target, value => target.eq value
  | notEquals, target, value => !target.eq value
  | greaterThan, target, value => value.lt target
  | lessThan, target, value => target.lt value
  | greaterThanOrEquals, target, value => value.le target
  | lessThanOrEquals, target, value => target.le value
  | _, _, _ => false

end Operator

/-- An operator, and whether it ignores letter case. -/
structure Operation where
  operator : Operator
  insensitive : Bool
  deriving DecidableEq

namespace Operation

/-- What follows the operator's name when letter case is ignored. -/
def insensitiveMark : Text := "-insensitive"

/-- The word for an operation in a query. -/
def name (op : Operation) : Text :=
  if op.insensitive then op.operator.name ++ insensitiveMark else op.operator.name

/-- What stands before the mark, for a word that ends with it. -/
def unmarked? (word : Text) : Option Text :=
  if insensitiveMark.isSuffixOf word then some (word.take (word.length - insensitiveMark.length))
  else none

/-- The operation with a given name. The mark is allowed on operators for strings only. -/
def ofName? (word : Text) : Option Operation :=
  match Operator.ofName? word with
  | some op => some ⟨op, false⟩
  | none =>
    match (unmarked? word).bind Operator.ofName? with
    | some op => if op.onStrings then some ⟨op, true⟩ else none
    | none => none

end Operation

end ContentQuery
