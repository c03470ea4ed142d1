import ContentQuery.Database
import ContentQuery.FileTree
import ContentQuery.Text.Utf8

/-!
# ContentQuery.Database.Octets

The octets in which the rows of a store are kept in a file.

The rows are one JSON object on one line of ASCII. Its first field names the format, so that a store
is told from any other file.
-/

namespace ContentQuery

namespace Database

/-- The name of the first field, which names the format. -/
def formatField : Text := "content query store"

/-- The number of the format. -/
def formatNumber : Int := 1

/-! ## Rows as values -/

/-- The value of a document's row. -/
def documentValue (row : DocumentRow) : Json :=
  .array [.string row.id, .string row.owner, .string row.content, .int row.created.micros,
    .int row.modified.micros]

/-- The value of a row of a share record. -/
def shareValue (row : ShareRow) : Json := .array [.string row.document, .string row.profile]

/-- The value of all rows. -/
def toJson (db : Database) : Json :=
  .object [(formatField, .int formatNumber), ("documents", .array (db.documents.map documentValue)),
    ("shares", .array (db.shares.map shareValue))]

/-- The row of a document that a value stands for. -/
def documentRow? : Json → Option DocumentRow
  | .array [.string id, .string owner, .string content, .int created, .int modified] => do
    let created ← Timestamp.ofMicros? created
    let modified ← Timestamp.ofMicros? modified
    return { id, owner, content, created, modified }
  | _ => none

/-- The row of a share record that a value stands for. -/
def shareRow? : Json → Option ShareRow
  | .array [.string document, .string profile] => some ⟨document, profile⟩
  | _ => none

/-- The rows that a value stands for. -/
def ofJson? : Json → Option Database
  | .object [(format, .int number), (_, .array documents), (_, .array shares)] => do
    guard (format = formatField ∧ number = formatNumber)
    return ⟨← documents.mapM documentRow?, ← shares.mapM shareRow?⟩
  | _ => none

/-! ## Octets -/

/-- The octets of all rows. -/
def octets (db : Database) : List UInt8 := (Utf8.encode (db.toJson.write .stored)).getD []

/-- The rows that octets hold; none if the octets are no store. -/
def ofOctets? [Limits] (octets : List UInt8) : Option Database := do
  let s ← Utf8.decode octets
  let value ← (Json.read .file Limits.row s).toOption
  ofJson? value

end Database

namespace FileNode

/-- What a file with given octets is. -/
def ofOctets [Limits] (octets : List UInt8) : FileNode :=
  match Database.ofOctets? octets with
  | some database => .store database
  | none => .file octets

/-- The octets of a file; a directory has none. -/
def octets? : FileNode → Option (List UInt8)
  | directory => none
  | file octets => some octets
  | store database => some database.octets

end FileNode

end ContentQuery
