import ContentQuery.Search

/-!
# ContentQuery.Source

Searches in documents and share records that it may fail to read. Reading goes on until it fails:
the documents before that have been looked at, and those that were skipped have been reported.
-/

namespace ContentQuery.Source

variable {ε : Type}

/-- Whether a user sees a document. For the user's own documents no share record is asked for,
unless the user looks for those of others. -/
def admits (source : Source ε) (scope : Scope) (user : Text) (d : Document) : Except ε Bool :=
  let isOwned : Bool := d.owner = user
  let isShared := (source.sharedWith? d.id).map fun record =>
    !isOwned && (record.getD []).contains user
  match scope with
  | .owned => .ok isOwned
  | .shared => isShared
  | .all => if isOwned then .ok true else isShared

/-- The documents that a search goes through. -/
def candidates (source : Source ε) (user : Text) : Scope → Except ε (List Document)
  | .owned => source.ownedBy user
  | _ => source.documents

/-- The documents that are kept, in order, up to the first one of which it cannot be told whether it
is, and whether there is such a one. -/
def keepUntil (keeps : Document → Except ε Bool) : List Document → List Document × Except ε Unit
  | [] => ([], .ok ())
  | d :: rest =>
    match keeps d with
    | .error e => ([], .error e)
    | .ok kept =>
      let (later, ended) := keepUntil keeps rest
      (if kept then d :: later else later, ended)

/-- The view of documents that a user has been found to see. -/
def view (source : Source ε) (documents : List Document) : Store where
  documents
  ownedBy _ := documents
  sharedWith? id := (source.sharedWith? id).toOption.join

/-- Why a search has no result. -/
inductive Fault (ε : Type) where
  /-- The evaluation of a query breaks off. -/
  | broken (cause : Breakdown)
  /-- Reading fails. -/
  | unread (error : ε)

/-- What a search reports: the documents skipped, and its result if there is one. -/
structure Report (ε : Type) where
  skipped : List Skipped
  result : Except (Fault ε) SearchResult

/-- The report of a search that read all that it had to. -/
def Report.ofSearch (report : Search.Report) : Report ε :=
  ⟨report.skipped, report.result.mapError .broken⟩

/-- The report of a search that read all that it had to, unless reading has failed after that. -/
def Report.until (report : Search.Report) (ended : Except ε Unit) : Report ε where
  skipped := report.skipped
  result := do
    let result ← report.result.mapError .broken
    ended.mapError .unread
    return result

/-- Runs a search that has been read. -/
def run [Limits] (source : Source ε) (user : Text) (plan : Search.Plan) : Report ε :=
  match source.candidates user plan.scope with
  | .error e => ⟨[], .error (.unread e)⟩
  | .ok documents =>
    let (seen, ended) := keepUntil (source.admits plan.scope user) documents
    .until (Search.run (source.view seen) user plan) ended

/-- Runs a search. -/
def search [Limits] (source : Source ε) (request : SearchRequest) :
    Except QueryError (Report ε) :=
  (Search.plan request).map (source.run request.user)

end ContentQuery.Source
