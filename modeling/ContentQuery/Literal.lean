import ContentQuery.Binary64.Shortest
import ContentQuery.Text.Blank

/-!
# ContentQuery.Literal

The typed value that a condition compares with, read from the text after its operator.

Reading never fails: what is neither quoted, nor a numeral, nor one of the three names is a string
of its own.
-/

namespace ContentQuery

/-- The value of a condition. -/
inductive Literal where
  | string (value : Text)
  | number (value : Binary64)
  | bool (value : Bool)
  | null
  deriving DecidableEq

namespace Literal

/-- Whether a text is enclosed in double quotes, which have to be two. -/
def isQuoted (s : Text) : Bool :=
  2 ≤ s.length && s.head? = some ('"' : CodePoint) && s.getLast? = some ('"' : CodePoint)

/-- Reads a literal. The first rule that applies decides: a quoted text is taken as it stands
between the quotes; then come null, the numerals and the truth values; anything else is a string. -/
def parse (source : Text) : Literal :=
  let s := source.trim
  if isQuoted s then .string (s.drop 1).dropLast
  else if s = "null" then .null
  else match Decimal.ofNumeral? s with
    | some d => .number d.toBinary64
    | none =>
      if s = "true" then .bool true
      else if s = "false" then .bool false
      else .string s

/-- A literal as it is written in messages: an integral number by its exact digits, a string without
quotes. -/
def display : Literal → Text
  | string value => value
  | number value =>
    match value.toInt? with
    | some n => Text.ofInt n
    | none => value.shown
  | bool true => "true"
  | bool false => "false"
  | null => "null"

/-- The name of a literal's type; each truth value is a type of its own. -/
def typeName : Literal → Text
  | string _ => "String"
  | number _ => "Number"
  | bool true => "True"
  | bool false => "False"
  | null => "Null"

end Literal

end ContentQuery
