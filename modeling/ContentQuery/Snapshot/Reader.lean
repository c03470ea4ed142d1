import ContentQuery.Json.Reader
import ContentQuery.Limits
import ContentQuery.Snapshot
import ContentQuery.Text.Utf8

/-!
# ContentQuery.Snapshot.Reader

Reading snapshots. All documents are read before any share record, in the order of the file, and the
first problem ends the reading.
-/

namespace ContentQuery.Snapshot

/-! ## Documents -/

/-- A timestamp of a document. -/
def readTimestamp (id : Text) (value : Json) : Except ReadError Timestamp :=
  let bad := fun problem => ReadError.invalid (.document id (.timestamp problem))
  (Timestamp.ofJson value).mapError fun e => match e with
    | .notText type => bad (.notText type)
    | .malformed => bad .malformed
    | .outOfRange => .outOfRange

/-- The value, unless it is blank. -/
def unlessBlank? (value : Option Json) : Option Json := value.filter fun v => !v.isBlank

/-- The owner of a document: a text that is not empty. -/
def owner? (fields : List (Text × Json)) : Option Text :=
  match unlessBlank? (fieldOf? fields "owner_id") with
  | some (.string owner) => some owner
  | _ => none

/-- Reads the document that stands under a key. The key is its id if the document does not give one;
it was modified when it was created if no other date is given. -/
def readEntry (key : Text) : Json → Except ReadError SnapshotEntry
  | .object fields => do
    let bad := fun problem => ReadError.invalid (.document key problem)
    let some owner := owner? fields | throw (bad .noOwner)
    let some date := fieldOf? fields "creation_date" | throw (bad (.timestamp .absent))
    let created ← readTimestamp key date
    let modified ←
      readTimestamp key ((unlessBlank? (fieldOf? fields "last_modified_date")).getD date)
    return {
      id := (unlessBlank? (fieldOf? fields "id")).getD (.string key)
      owner
      content := (fieldOf? fields "content").getD .null
      created
      modified }
  | _ => .error (.invalid (.document key .notObject))

/-! ## Share records -/

/-- The texts that values are, if all of them are texts. -/
def texts? : List Json → Option (List Text)
  | [] => some []
  | .string s :: rest => (texts? rest).map (s :: ·)
  | _ :: _ => none

/-- The items without repetitions; the first of equal items stays. -/
def firsts (items : List Text) : List Text :=
  items.foldl (fun known item => if known.contains item then known else known ++ [item]) []

/-- Reads the share record that stands under a key. -/
def readShare (key : Text) : Json → Except ReadError (Text × List Text)
  | .object fields => do
    let bad := ReadError.invalid (.share key .notProfiles)
    match unlessBlank? (fieldOf? fields "shared_with") with
    | none => return (key, [])
    | some (.array items) =>
      match texts? items with
      | some profiles => return (key, firsts profiles)
      | none => throw bad
    | some _ => throw bad
  | _ => .error (.invalid (.share key .notObject))

/-! ## Snapshots -/

/-- The fields of a section of the file. A section that is absent or null is empty. -/
def section? (fields : List (Text × Json)) (name : Text) : Option (List (Text × Json)) :=
  match fieldOf? fields name with
  | none => some []
  | some .null => some []
  | some (.object entries) => some entries
  | some _ => none

/-- Reads a snapshot from the value of its file. -/
def ofJson : Json → Except ReadError Snapshot
  | .object fields =>
    match section? fields "documents", section? fields "share_records" with
    | some documents, some shares => do
      let entries ← documents.mapM fun (key, value) => readEntry key value
      let shares ← shares.mapM fun (key, value) => readShare key value
      return ⟨entries, shares⟩
    | _, _ => .error (.invalid .badSections)
  | _ => .error (.invalid .notObject)

/-- Reads a snapshot from its text. -/
def ofText [Limits] (s : Text) : Except ReadError Snapshot :=
  match Json.read .file Limits.snapshot s with
  | .ok value => ofJson value
  | .error .malformed => .error (.invalid .notJson)
  | .error .longInteger => .error .longInteger
  | .error .tooDeep => .error .tooDeep

/-- Reads a snapshot from the octets of its file. -/
def ofOctets [Limits] (octets : List UInt8) : Except ReadError Snapshot :=
  match Utf8.decode octets with
  | some s => ofText s
  | none => .error .notText

/-- Reads the snapshot at a path. -/
def load [Limits] (tree : FileTree) (working : Location) (path : Text) :
    Except ReadError Snapshot :=
  match FilePath.check path with
  | .error problem => .error (.path problem)
  | .ok () =>
    match tree.read working path with
    | .ok octets => ofOctets octets
    | .error e => .error (.invalid (.unreadable e))

end ContentQuery.Snapshot
