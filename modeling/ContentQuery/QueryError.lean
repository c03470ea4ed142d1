import ContentQuery.Text

/-!
# ContentQuery.QueryError

What can be wrong with a query, each cause with the text that reports it.
-/

namespace ContentQuery

/-! ## Malformed queries -/

/-- Why a condition, a list of query parts or an expression is no query. -/
inductive SyntaxProblem where
  /-- A condition without a value. -/
  | noValue (condition : Text)
  /-- Two words of which neither is an operator. -/
  | noOperator (condition : Text)
  /-- The word in the place of the operator is not one. -/
  | unknownOperator (word condition : Text)
  /-- Letter case cannot be ignored by this operator, or there is no such operator. -/
  | notInsensitive (base condition : Text)
  | emptyPart (index : Nat)
  /-- A connective where a condition was expected. -/
  | strayConnective (index : Nat) (part : Text)
  | badCondition (index : Nat) (problem : SyntaxProblem)
  /-- Something else where a connective was expected. -/
  | badConnective (index : Nat) (part : Text)
  /-- The last part is a connective. -/
  | openEnd (index : Nat)
  /-- An expression that cannot be cut into parts, and the column of the problem. -/
  | unsplittable (column : Nat) (expression : Text)
  /-- A problem with the query of a search. -/
  | inSearch (problem : SyntaxProblem)
  deriving DecidableEq

/-- The report of a problem. -/
def SyntaxProblem.message : SyntaxProblem → Text
  | noValue condition =>
    "invalid condition format: condition must have at least an operator and a value (condition: '"
      ++ condition ++ "')"
  | noOperator condition => "invalid condition format (condition: '" ++ condition ++ "')"
  | unknownOperator word condition =>
    "invalid condition format: invalid operator '" ++ word ++ "' (condition: '" ++ condition ++ "')"
  | notInsensitive base condition =>
    "invalid base operator for insensitive matching '" ++ base ++ "' (condition: '" ++ condition
      ++ "')"
  | emptyPart index => "query part at index " ++ Text.ofNat index ++ " is empty"
  | strayConnective index part =>
    "invalid condition at index " ++ Text.ofNat index
      ++ ": expected a condition, got logical operator '" ++ part ++ "'"
  | badCondition index problem =>
    "invalid condition at index " ++ Text.ofNat index ++ ": " ++ problem.message
  | badConnective index part =>
    "invalid logical operator at index " ++ Text.ofNat index ++ ": '" ++ part
      ++ "', expected 'and' or 'or'"
  | openEnd index =>
    "query must end with a condition, not a logical operator (index " ++ Text.ofNat index ++ ")"
  | unsplittable column expression =>
    "cannot split query expression at column " ++ Text.ofNat column ++ ": '" ++ expression ++ "'"
  | inSearch problem => "invalid content_query: " ++ problem.message

/-! ## Comparisons that make no sense -/

/-- Why an operation and a literal do not go with a target. Operations are given by name. -/
inductive Mismatch where
  /-- A string, or plain text, and a literal of another type. -/
  | notString (target literalType operation : Text)
  | numericOnString (operation : Text)
  | stringOnNumber (operation : Text)
  | insensitiveNumber (operation : Text)
  | notNumber (literal operation : Text)
  | notOnBool (operation : Text)
  | insensitiveBool (operation : Text)
  | notBool (literal operation : Text)
  | wholeArray (operation : Text)
  | notOnArray (operation : Text)
  | wholeObject (operation : Text)
  | bothNull (operation : Text)
  | oneNull (operation : Text)
  deriving DecidableEq

/-- The report of a mismatch. -/
def Mismatch.message : Mismatch → Text
  | notString target literalType operation =>
    "type mismatch: cannot compare " ++ target ++ " with " ++ literalType ++ " using operator '"
      ++ operation ++ "'"
  | numericOnString operation =>
    "type mismatch: cannot apply numeric operator '" ++ operation ++ "' to string value"
  | stringOnNumber operation =>
    "type mismatch: cannot apply string operator '" ++ operation ++ "' to numeric value"
  | insensitiveNumber operation =>
    "operator '" ++ operation ++ "' cannot be case-insensitive for numeric comparison"
  | notNumber literal operation =>
    "type mismatch: value '" ++ literal ++ "' is not a valid number for comparison with operator '"
      ++ operation ++ "'"
  | notOnBool operation => "operator '" ++ operation ++ "' is invalid for boolean comparison"
  | insensitiveBool operation =>
    "operator '" ++ operation ++ "' cannot be case-insensitive for boolean comparison"
  | notBool literal operation =>
    "type mismatch: value '" ++ literal ++ "' is not a valid boolean for comparison with operator '"
      ++ operation ++ "'"
  | wholeArray operation =>
    "operator '" ++ operation ++ "' cannot directly compare arrays/objects"
  | notOnArray operation => "operator '" ++ operation ++ "' is invalid for array comparison"
  | wholeObject operation => "operator '" ++ operation ++ "' cannot directly compare JSON objects"
  | bothNull operation => "operator '" ++ operation ++ "' invalid for null comparison"
  | oneNull operation =>
    "operator '" ++ operation ++ "' invalid for comparing null with non-null value"

/-! ## Search parameters -/

/-- A parameter of a search that is not one of the words allowed for it. -/
inductive BadParameter where
  | scope (word : Text)
  | order (word : Text)
  | sortField (word : Text)
  deriving DecidableEq

/-- The report of a bad parameter. -/
def BadParameter.message : BadParameter → Text
  | scope word => "invalid scope value: '" ++ word ++ "', expected 'owned', 'shared', or 'all'"
  | order word => "invalid order value: '" ++ word ++ "', expected 'asc' or 'desc'"
  | sortField word =>
    "invalid sort_by value: '" ++ word ++ "', expected 'creation_date' or 'last_modified_date'"

/-! ## All causes -/

/-- Why a query was not run, or not answered for one document. -/
inductive QueryError where
  | malformed (problem : SyntaxProblem)
  | noSuchPath (path : Text)
  | mismatch (cause : Mismatch)
  /-- An operation that plain text, and a scalar at the root, do not support. -/
  | unsupported (operation : Text)
  | parameter (cause : BadParameter)
  deriving DecidableEq

/-- The report of an error. -/
def QueryError.message : QueryError → Text
  | malformed problem => problem.message
  | noSuchPath path => "path '" ++ path ++ "' does not exist in document content"
  | mismatch cause => cause.message
  | unsupported operation =>
    "content is plain text, and operator '" ++ operation ++ "' is not supported"
  | parameter cause => cause.message

/-- The five kinds of error, by which callers branch. -/
inductive ErrorKind where
  | syntaxError
  | path
  | typeMismatch
  | unsupported
  | validation
  deriving DecidableEq

/-- The kind of an error. -/
def QueryError.kind : QueryError → ErrorKind
  | malformed _ => .syntaxError
  | noSuchPath _ => .path
  | mismatch _ => .typeMismatch
  | unsupported _ => .unsupported
  | parameter _ => .validation

end ContentQuery
