import ContentQuery.Document
import ContentQuery.QueryError
import ContentQuery.Text.Case

/-!
# ContentQuery.Scope

Which documents a user sees before the content is looked at: the user's own, those that others have
shared with the user, or both.
-/

namespace ContentQuery

/-- A choice of visible documents. -/
inductive Scope where
  | owned
  | shared
  | all
  deriving DecidableEq

namespace Scope

/-- Every scope, in the order in which they are listed to users. -/
def every : List Scope := [owned, shared, all]

/-- The word for a scope. -/
def word : Scope → Text
  | owned => "owned"
  | shared => "shared"
  | all => "all"

/-- The scope that a word stands for, in any letter case. -/
def ofWord? (s : Text) : Option Scope := every.find? fun scope => scope.word = s.lower

/-- Reads a scope; the empty text means all documents. -/
def parse (s : Text) : Except BadParameter Scope :=
  if s = [] then .ok all
  else match ofWord? s with
    | some scope => .ok scope
    | none => .error (.scope s)

/-- Whether a user sees a document. The owner does not see it as shared, whatever the
record says. -/
def admits (scope : Scope) (store : Store) (user : Text) (d : Document) : Bool :=
  let isShared := d.owner ≠ user && ((store.sharedWith? d.id).getD []).contains user
  match scope with
  | owned => d.owner = user
  | shared => isShared
  | all => d.owner = user || isShared

end Scope

end ContentQuery
