import ContentQuery.Document
import ContentQuery.Json.Reader
import ContentQuery.Json.Writer
import ContentQuery.Limits

/-!
# ContentQuery.Database

The rows in which documents and share records are kept, and the store that they make up.

The content of a document is kept as JSON text and read again with every document. Rows have no
order of their own: they are always read in the order of their keys.
-/

namespace ContentQuery

/-- A kept document. Its points in time are kept without the offset, which is that of universal
time for all of them. -/
structure DocumentRow where
  id : Text
  owner : Text
  content : Text
  created : Timestamp
  modified : Timestamp

/-- A profile that a document is shared with. -/
structure ShareRow where
  document : Text
  profile : Text
  deriving DecidableEq

/-- The rows of a store. -/
structure Database where
  documents : List DocumentRow
  shares : List ShareRow

namespace Database

/-- A store without any rows. -/
def empty : Database := ⟨[], []⟩

/-! ## Reading -/

/-- Why rows were not read. -/
inductive FetchError where
  /-- The text to look for has a surrogate, for which there are no octets. -/
  | surrogate
  /-- The content of a row cannot be read. -/
  | content (error : Json.ReadError)
  deriving DecidableEq

/-- Whether a text has octets, as one that is kept in a column or looked for in one must have. -/
def hasOctets (s : Text) : Bool := !s.any CodePoint.isSurrogate

/-- What is found by looking for a text. -/
def lookFor {α : Type} (s : Text) (found : Except FetchError α) : Except FetchError α :=
  if hasOctets s then found else .error .surrogate

/-- The document of a row. -/
def documentOf [Limits] (row : DocumentRow) : Except Json.ReadError Document := do
  let content ← Json.read .file Limits.row row.content
  return {
    id := row.id
    owner := row.owner
    content := .json content
    created := row.created
    modified := row.modified }

/-- The rows of the documents by id. -/
def sortedRows (db : Database) : List DocumentRow :=
  db.documents.mergeSort fun a b => !b.id.precedes a.id

/-- The documents of some rows. -/
def documentsIn [Limits] (rows : List DocumentRow) : Except FetchError (List Document) :=
  (rows.mapM documentOf).mapError .content

/-- The documents, by id. -/
def allDocuments [Limits] (db : Database) : Except FetchError (List Document) :=
  documentsIn db.sortedRows

/-- The documents of one owner, by id. Other rows are not read. -/
def documentsOf [Limits] (db : Database) (owner : Text) : Except FetchError (List Document) :=
  lookFor owner (documentsIn (db.sortedRows.filter fun row => row.owner = owner))

/-- The record of some profiles: they are in order. There is none if there are no profiles. -/
def recordOf? : List Text → Option (List Text)
  | [] => none
  | profiles => some (profiles.mergeSort fun a b => !b.precedes a)

/-- The record of the profiles that the rows list for a document. -/
def profilesOf? (db : Database) (id : Text) : Option (List Text) :=
  recordOf? ((db.shares.filter fun row => row.document = id).map (·.profile))

/-- The profiles that a document is shared with. -/
def sharedWith? (db : Database) (id : Text) : Except FetchError (Option (List Text)) :=
  lookFor id (.ok (db.profilesOf? id))

/-- The rows as searches read them. -/
def toSource [Limits] (db : Database) : Source FetchError where
  documents := db.allDocuments
  ownedBy := db.documentsOf
  sharedWith? := db.sharedWith?

end Database

end ContentQuery
