import ContentQuery.Evaluation
import ContentQuery.Listing
import ContentQuery.Scope

/-!
# ContentQuery.Search

A search: the documents in a scope that match a content query, in order, one page of them.

A document for which the query cannot be evaluated is skipped and reported; it does not end the
search. Only an evaluation that breaks off does.
-/

namespace ContentQuery

/-- What a search asks for, as the user gave it. -/
structure SearchRequest where
  user : Text
  scope : Text
  parts : List Text
  sortField : Text
  direction : Text
  page : Int
  limit : Int

/-- A document that was skipped, the condition that failed for it and the reason. -/
structure Skipped where
  document : Text
  condition : Text
  cause : QueryError

/-- The report of the failed condition. -/
def Skipped.message (s : Skipped) : Text := EvaluationError.report s.condition s.cause

/-- One page of matches. `total` counts the matches on all pages. -/
structure SearchResult where
  documents : List Document
  total : Nat
  page : Page

namespace Search

/-- What going through documents has brought: the matches, the documents skipped on the way, and
whether the scan came to the end. -/
structure Scan where
  matched : List Document
  skipped : List Skipped
  outcome : Except Breakdown Unit

/-- Goes through documents in order; those that the user does not see are passed over. -/
def scan [Limits] (sees : Document → Bool) (query : Option Query) : List Document → Scan
  | [] => ⟨[], [], .ok ()⟩
  | d :: rest =>
    if !sees d then scan sees query rest
    else match matchesQuery d.content query with
      | .ok true =>
        let later := scan sees query rest
        { later with matched := d :: later.matched }
      | .ok false => scan sees query rest
      | .error (.failed condition cause) =>
        let later := scan sees query rest
        { later with skipped := ⟨d.id, condition, cause⟩ :: later.skipped }
      | .error (.broken cause) => ⟨[], [], .error cause⟩

/-- The documents that a scan has to go through: for the user's own documents the store has a way of
its own. -/
def candidates (store : Store) (user : Text) : Scope → List Document
  | .owned => store.ownedBy user
  | _ => store.documents

/-- A request that has been read. -/
structure Plan where
  query : Option Query
  scope : Scope
  sorting : Sorting
  page : Page

/-- Reads a request: first the query, then the scope, the direction and the sort field. -/
def plan (request : SearchRequest) : Except QueryError Plan := do
  let query ← (Query.parse request.parts).mapError fun p => .malformed (.inSearch p)
  let scope ← (Scope.parse request.scope).mapError .parameter
  let sorting ← (Sorting.parse request.sortField request.direction).mapError .parameter
  return ⟨query, scope, sorting, .ofRequest request.page request.limit⟩

/-- What a search reports: the documents skipped, and its result if the scan came to the end. -/
structure Report where
  skipped : List Skipped
  result : Except Breakdown SearchResult

/-- Runs a search that has been read. -/
def run [Limits] (store : Store) (user : Text) (plan : Plan) : Report :=
  let found :=
    scan (plan.scope.admits store user) plan.query (candidates store user plan.scope)
  let sorted := plan.sorting.sort found.matched
  ⟨found.skipped, found.outcome.map fun _ =>
    ⟨Page.paginate sorted plan.page.number plan.page.limit, sorted.length, plan.page⟩⟩

end Search

/-- Runs a search. -/
def search [Limits] (store : Store) (request : SearchRequest) : Except QueryError Search.Report :=
  (Search.plan request).map (Search.run store request.user)

end ContentQuery
