import ContentQuery.Database
import ContentQuery.Database.Engine
import ContentQuery.Snapshot

/-!
# ContentQuery.Database.Import

Replacing the rows of a store by the documents and share records of a snapshot.

Either all rows are written or the import fails. Share records of documents that the snapshot does
not hold are left out with a warning; the warnings are given even if writing fails afterwards.
-/

namespace ContentQuery.Database

/-- Why rows were not written. -/
inductive ImportError where
  /-- An id is an array or an object. -/
  | compositeId
  /-- A text has a surrogate, for which there are no octets. -/
  | surrogate
  /-- An id is an integer of more than 64 bits. -/
  | longInteger
  /-- An id is no value of a column, or there is a row of that id already. -/
  | rejected
  deriving DecidableEq

/-! ## Rows -/

/-- A text as a column keeps it. -/
def columnText (s : Text) : Except ImportError Text :=
  if hasOctets s then .ok s else .error .surrogate

/-- An id as a column keeps it: numbers and truth values become texts; nothing is kept of a null. -/
def columnId [Engine] : Json → Except ImportError (Option Text)
  | .string s => (columnText s).map some
  | .bool b => .ok (some (if b then "1" else "0"))
  | .int n =>
    if -0x8000000000000000 ≤ n ∧ n < 0x8000000000000000 then .ok (some (Text.ofInt n))
    else .error .longInteger
  | .float x => .ok (Engine.columnText? x)
  | .null => .ok none
  | .array _ => .error .compositeId
  | .object _ => .error .compositeId

/-- The row of a document. -/
def documentRow [Engine] (entry : SnapshotEntry) : Except ImportError DocumentRow := do
  let id ← columnId entry.id
  let owner ← columnText entry.owner
  match id with
  | none => throw .rejected
  | some id =>
    return {
      id
      owner
      content := entry.content.write .stored
      created := entry.created
      modified := entry.modified }

/-- Adds the row of a document; there is one row for each id. -/
def insertDocument [Engine] (db : Database) (entry : SnapshotEntry) :
    Except ImportError Database := do
  let row ← documentRow entry
  if db.documents.any fun other => other.id = row.id then throw .rejected
  return { db with documents := db.documents ++ [row] }

/-- The row for a profile that a document is shared with. -/
def shareRow (document profile : Text) : Except ImportError ShareRow :=
  return ⟨← columnText document, ← columnText profile⟩

/-- Adds the row for a document and a profile; there is one row for each pair. -/
def insertShare (db : Database) (pair : Text × Text) : Except ImportError Database := do
  let row ← shareRow pair.1 pair.2
  if row ∈ db.shares then throw .rejected
  return { db with shares := db.shares ++ [row] }

/-- Deletes the rows of share records. -/
def deleteShares (db : Database) : Database := { db with shares := [] }

/-- Deletes the rows of documents. -/
def deleteDocuments (db : Database) : Database := { db with documents := [] }

/-! ## Imports -/

/-- Whether an id can be looked up, as is needed to match share records. -/
def isSimple : Json → Bool
  | .array _ => false
  | .object _ => false
  | _ => true

/-- Whether a snapshot holds a document with this text as its id. -/
def holds (snapshot : Snapshot) (id : Text) : Bool :=
  snapshot.entries.any fun entry => match entry.id with
    | .string s => s = id
    | _ => false

/-- What an import has brought. -/
structure Import where
  /-- The documents whose share records were left out. -/
  ignored : List Text
  result : Except ImportError Database

/-- The report that the share record of a document was left out. -/
def ignoredMessage (id : Text) : Text := "Share record for unknown document " ++ id ++ " ignored"

/-- The documents of share records, each with every profile of its record. -/
def sharePairs (shares : List (Text × List Text)) : List (Text × Text) :=
  shares.flatMap fun share => share.2.map fun profile => (share.1, profile)

/-- Replaces all rows by those of a snapshot. -/
def replaceBy [Engine] (db : Database) (snapshot : Snapshot) : Import :=
  if snapshot.entries.all fun entry => isSimple entry.id then
    let (known, unknown) := snapshot.shares.partition fun share => holds snapshot share.1
    { ignored := unknown.map (·.1)
      result := do
        let db ← snapshot.entries.foldlM insertDocument db.deleteShares.deleteDocuments
        (sharePairs known).foldlM insertShare db }
  else ⟨[], .error .compositeId⟩

end ContentQuery.Database
