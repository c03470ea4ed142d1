import ContentQuery.Comparison
import ContentQuery.Query

/-!
# ContentQuery.Evaluation

Whether a query matches a content.

Conditions are joined strictly from left to right, without precedence, and all of them are
evaluated: an error in any of them is the result, even where the conditions before it have decided.
-/

namespace ContentQuery

/-- Why an evaluation breaks off without blaming a condition. -/
inductive Breakdown where
  /-- An index in a path is too long to be converted. -/
  | longIndex
  /-- A payload stands for no JSON value and cannot be shown either. -/
  | noContent (cause : ShowError)
  deriving DecidableEq

/-- Why a query has no truth value for a payload. -/
inductive EvaluationError where
  /-- A condition cannot be compared with its target. -/
  | failed (condition : Text) (cause : QueryError)
  | broken (cause : Breakdown)
  deriving DecidableEq

/-- The report of a condition that failed. -/
def EvaluationError.report (condition : Text) (cause : QueryError) : Text :=
  "error evaluating condition '" ++ condition ++ "': " ++ cause.message

namespace Condition

/-- Names the condition in an error of its comparison. -/
def blame (cond : Condition) : Except QueryError Bool → Except EvaluationError Bool
  | .ok result => .ok result
  | .error cause => .error (.failed cond.source cause)

/-- Whether a condition holds for a content. -/
def evaluate (cond : Condition) : Content → Except EvaluationError Bool
  | .plain s => cond.blame (Comparison.withPlainText cond s)
  | .json root =>
    match Path.resolve? root cond.path with
    | .error .longIndex => .error (.broken .longIndex)
    | .ok none => cond.blame (.error (.noSuchPath cond.path))
    | .ok (some target) => cond.blame (Comparison.withValue cond target)

end Condition

namespace Query

/-- Joins the result so far with the conditions that follow. -/
def evaluateFrom (content : Content) (result : Bool) :
    List (Connective × Condition) → Except EvaluationError Bool
  | [] => .ok result
  | (connective, cond) :: rest => do
    let next ← cond.evaluate content
    evaluateFrom content (connective.join result next) rest

/-- Whether a query matches a content; an empty one always does. -/
def evaluate (query : Query) (content : Content) : Except EvaluationError Bool :=
  match query.conditions with
  | [] => .ok true
  | first :: rest => do
    let result ← first.evaluate content
    evaluateFrom content result (query.connectives.zip rest)

end Query

/-- Whether a payload passes a filter; no query and an empty one let everything pass. -/
def matchesQuery [Limits] (payload : Payload) : Option Query → Except EvaluationError Bool
  | none => .ok true
  | some query =>
    if query.isEmpty then .ok true
    else match Content.ofPayload payload with
      | .ok content => query.evaluate content
      | .error cause => .error (.broken (.noContent cause))

end ContentQuery
