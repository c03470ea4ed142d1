import ContentQuery.FileTree
import ContentQuery.Timestamp.Reader

/-!
# ContentQuery.Snapshot

Snapshots: files from which the documents and share records of a store are imported, and what can be
wrong with one.
-/

namespace ContentQuery

/-- A document of a snapshot. Its id is a text as a rule, but a snapshot may give any value that is
not blank. -/
structure SnapshotEntry where
  id : Json
  owner : Text
  content : Json
  created : Timestamp
  modified : Timestamp

/-- The documents and share records of a snapshot, in the order of the file. -/
structure Snapshot where
  entries : List SnapshotEntry
  shares : List (Text × List Text)

namespace Snapshot

/-! ## Problems -/

/-- What is wrong with a timestamp. -/
inductive TimestampProblem where
  /-- There is no creation date. -/
  | absent
  /-- The value is no text but of the type that is named. -/
  | notText (type : Text)
  | malformed
  deriving DecidableEq

/-- What is wrong with a document. -/
inductive DocumentProblem where
  | notObject
  | noOwner
  | timestamp (problem : TimestampProblem)
  deriving DecidableEq

/-- What is wrong with a share record. -/
inductive ShareProblem where
  | notObject
  | notProfiles
  deriving DecidableEq

/-- What is wrong with a snapshot, so that it is reported as invalid. -/
inductive Problem where
  | unreadable (error : FileError)
  | notJson
  | notObject
  | badSections
  | document (id : Text) (problem : DocumentProblem)
  | share (id : Text) (problem : ShareProblem)

/-- Why a snapshot was not read. All but the first cause end the program that reads it. -/
inductive ReadError where
  | invalid (problem : Problem)
  /-- No file can have the path. -/
  | path (problem : FilePath.Problem)
  /-- The octets of the file are no UTF-8. -/
  | notText
  /-- An integer has too many digits to be converted. -/
  | longInteger
  /-- Values are nested too deep. -/
  | tooDeep
  /-- A timestamp lies outside the years that timestamps cover. -/
  | outOfRange

/-- The wording of a problem with a timestamp, after the statement that it is invalid. -/
def TimestampProblem.message : TimestampProblem → Text
  | absent => ": 'creation_date'"
  | notText type => ": expected a string, got " ++ type
  | malformed => []

/-- The wording of a problem with a document. -/
def DocumentProblem.message : DocumentProblem → Text
  | notObject => "must be an object"
  | noOwner => "has no owner_id"
  | timestamp problem => "has an invalid timestamp" ++ problem.message

/-- The wording of a problem with a share record. -/
def ShareProblem.message : ShareProblem → Text
  | notObject => "must be an object"
  | notProfiles => "must list profile ids"

/-- The wording of a problem. -/
def Problem.message : Problem → Text
  | unreadable error => error.message
  | notJson => "not valid JSON"
  | notObject => "top level must be an object"
  | badSections => "'documents' and 'share_records' must be objects"
  | document id problem => "document '" ++ id ++ "' " ++ problem.message
  | share id problem => "share record '" ++ id ++ "' " ++ problem.message

/-- The report that the snapshot at a path is invalid. -/
def report (path : Text) (problem : Problem) : Text :=
  "Invalid snapshot at " ++ path ++ ": " ++ problem.message

end Snapshot

end ContentQuery
