import ContentQuery.Json.Writer
import ContentQuery.Search

/-!
# ContentQuery.Export

Documents and results of searches as JSON, for other programs.
-/

namespace ContentQuery

/-- The JSON object of a document, from which it can be imported again. -/
def Document.exported (d : Document) : Except Payload.WriteError Json :=
  return .object [("id", .string d.id), ("owner_id", .string d.owner),
    ("content", ← d.content.written), ("creation_date", .string d.created.text),
    ("last_modified_date", .string d.modified.text)]

namespace SearchResult

/-- The JSON object of a result: the documents of the page, and the place of the page in the whole
listing. -/
def exported (result : SearchResult) : Except Payload.WriteError Json :=
  return .object [("documents", .array (← result.documents.mapM Document.exported)),
    ("total", .int result.total), ("page", .int result.page.number),
    ("limit", .int result.page.limit)]

/-- The place of the first document of the page in the whole listing, counted from one. -/
def first (result : SearchResult) : Nat := result.page.offset + 1

/-- The place of the last document of the page in the whole listing. -/
def last (result : SearchResult) : Nat := result.page.offset + result.documents.length

end SearchResult

end ContentQuery
