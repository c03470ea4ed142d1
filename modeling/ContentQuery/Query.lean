import ContentQuery.Condition

/-!
# ContentQuery.Query

A content query: conditions with connectives between them, read from a list of parts in which
conditions and connectives alternate.
-/

namespace ContentQuery

/-- What joins two neighbouring conditions. -/
inductive Connective where
  | and
  | or
  deriving DecidableEq

namespace Connective

/-- The word for a connective. -/
def word : Connective → Text
  | .and => "and"
  | .or => "or"

/-- The connective that a word stands for, in any letter case. -/
def ofWord? (s : Text) : Option Connective :=
  let lower := s.lower
  if lower = "and" then some .and else if lower = "or" then some .or else none

/-- The truth value of two joined ones. -/
def join : Connective → Bool → Bool → Bool
  | .and, a, b => a && b
  | .or, a, b => a || b

end Connective

/-- Conditions and the connectives between them: the connective at place `i` joins the conditions at
places `i` and `i + 1`. Without conditions the query is empty. -/
structure Query where
  conditions : List Condition
  connectives : List Connective
  balanced : connectives.length = conditions.length - 1

namespace Query

def isEmpty (query : Query) : Bool := query.conditions.isEmpty

/-- A first condition and the conditions after it, each with the connective before it. -/
def chain (first : Condition) (rest : List (Connective × Condition)) : Query :=
  ⟨first :: rest.map (·.2), rest.map (·.1), by simp⟩

/-- Why given conditions and connectives are not the parts of one query. -/
structure Unbalanced where
  conditions : Nat
  connectives : Nat

/-- The report of a wrong number of connectives. -/
def Unbalanced.message (e : Unbalanced) : Text :=
  Text.ofNat e.conditions ++ " conditions need " ++ Text.ofNat (e.conditions - 1)
    ++ " logic operators, got " ++ Text.ofNat e.connectives

/-- The query of given parts, if their numbers fit. -/
def ofParts (conditions : List Condition) (connectives : List Connective) :
    Except Unbalanced Query :=
  if h : connectives.length = conditions.length - 1 then .ok ⟨conditions, connectives, h⟩
  else .error ⟨conditions.length, connectives.length⟩

/-- Reads the part at `index`, which has to be a condition. -/
def parseCondition (index : Nat) (raw : Text) : Except SyntaxProblem Condition :=
  let part := raw.trim
  if part = [] then .error (.emptyPart index)
  else if (Connective.ofWord? part).isSome then .error (.strayConnective index part)
  else (Condition.parse part).mapError (.badCondition index)

/-- Reads the part at `index`, which has to be a connective. -/
def parseConnective (index : Nat) (raw : Text) : Except SyntaxProblem Connective :=
  let part := raw.trim
  if part = [] then .error (.emptyPart index)
  else match Connective.ofWord? part with
    | some connective => .ok connective
    | none => .error (.badConnective index part)

/-- Reads connectives and conditions in turn, the first part being at `index`. -/
def parseRest (index : Nat) : List Text → Except SyntaxProblem (List (Connective × Condition))
  | [] => .ok []
  | [raw] => do
    let _ ← parseConnective index raw
    .error (.openEnd index)
  | raw :: next :: parts => do
    let connective ← parseConnective index raw
    let condition ← parseCondition (index + 1) next
    let rest ← parseRest (index + 2) parts
    return (connective, condition) :: rest

/-- Reads a list of parts; no parts make no query. The first part at fault is reported. -/
def parse : List Text → Except SyntaxProblem (Option Query)
  | [] => .ok none
  | raw :: parts => do
    let first ← parseCondition 0 raw
    let rest ← parseRest 1 parts
    return some (chain first rest)

end Query

end ContentQuery
