import ContentQuery.Literal
import ContentQuery.Operation
import ContentQuery.QueryError
import ContentQuery.Text.Case

/-!
# ContentQuery.Condition

One condition of a query: a path, an operation and a literal.

The path may be left out, and then the condition is about the whole content: this is how a text
whose first word names an operation is read. The literal is all that follows the operation, with its
inner spacing.
-/

namespace ContentQuery

/-- A condition. The path is empty if the condition is about the whole content; `source` is the
condition as it was written. -/
structure Condition where
  path : Text
  operation : Operation
  literal : Literal
  source : Text
  deriving DecidableEq

namespace Condition

/-- Why a text of at least three words, of which the second names no operation, is no condition. -/
def problemWith (word condition : Text) : SyntaxProblem :=
  match Operation.unmarked? word with
  | some base => .notInsensitive base condition
  | none => .unknownOperator word condition

/-- Reads a condition. Names of operations may be written in any letter case. -/
def parse (source : Text) : Except SyntaxProblem Condition :=
  let condition := source.trim
  let first := condition.firstWord
  let rest := condition.afterWord
  if rest = [] then .error (.noValue condition)
  else match Operation.ofName? first.lower with
    | some operation => .ok ⟨[], operation, Literal.parse rest, source⟩
    | none =>
      let second := Text.firstWord rest
      let value := Text.afterWord rest
      match Operation.ofName? second.lower with
      | some operation =>
        if value = [] then .error (.noValue condition)
        else .ok ⟨first, operation, Literal.parse value, source⟩
      | none =>
        if value = [] then .error (.noOperator condition)
        else .error (problemWith second.lower condition)

end Condition

end ContentQuery
