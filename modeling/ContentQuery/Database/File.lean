import ContentQuery.Database.Engine
import ContentQuery.Database.Import
import ContentQuery.Snapshot.Reader

/-!
# ContentQuery.Database.File

Opening the store at a location, reading it and replacing what it holds.

What a session writes becomes part of the tree of files only if the session ends well. A store that
is created is there from the moment it is opened, and stays even if the session fails.
-/

namespace ContentQuery

/-- Why a store cannot be opened. -/
inductive OpenError where
  /-- There is no store at this location, and none is to be created. -/
  | notFound (place : Location)
  /-- The directories for a new store cannot be created, or the location is too long. -/
  | file (error : FileError)
  /-- The location, taken as an address, names no file. -/
  | address (problem : AddressProblem)
  /-- What is there is no store, or the file for a store cannot be used. -/
  | unusable

/-- The report that there is no store. -/
def storeNotFound (place : Location) : Text := "Document store not found: " ++ place.text

/-- An open store: the tree of files with it, the path of its file and what it holds. -/
structure OpenStore where
  tree : FileTree
  file : Location
  database : Database

namespace FileTree

/-- Whether the name of a file is too long for a store to be written there. -/
def isLongName [Engine] (place : Location) : Bool :=
  place.getLast?.any fun name => Engine.maxName < octetLength name

/-- Opens the file of a store. A file that is not there yet is a store without any rows. It is made
before it turns out that its name is too long. -/
def openFile [Engine] (tree : FileTree) (place : Location) :
    FileTree × Except OpenError OpenStore :=
  let unusable : Except OpenError OpenStore := .error .unusable
  let fresh := tree.put place (.store .empty)
  if Engine.maxPath < octetLength place.text then (tree, unusable)
  else match tree.lookUp [] place.text with
    | .ok (_, .store database) => (tree, .ok ⟨tree, place, database⟩)
    | .ok (_, .file octets) =>
      if Engine.isEmpty octets && !isLongName place then (fresh, .ok ⟨fresh, place, .empty⟩)
      else (tree, unusable)
    | .error .missing =>
      match tree.room place with
      | .ok none =>
        if isLongName place then (tree.put place (.file []), unusable)
        else (fresh, .ok ⟨fresh, place, .empty⟩)
      | _ => (tree, unusable)
    | _ => (tree, unusable)

/-- Opens the file that a location names if it is taken as an address. -/
def openAddress [Engine] (tree : FileTree) (place : Location) :
    FileTree × Except OpenError OpenStore :=
  match Engine.fileOf place with
  | .ok file => tree.openFile file
  | .error problem => (tree, .error (.address problem))

/-- Opens the store at a location and tells whether it is created. The location is looked for as it
is, and its directories are made as they are, but the file that is opened is the one that it names
as an address. The tree that comes back has the directories that were made on the way, even if the
store cannot be opened. -/
def openStore [Engine] (tree : FileTree) (place : Location) (create : Bool) :
    FileTree × Bool × Except OpenError OpenStore :=
  match tree.has place with
  | .error e => (tree, false, .error (.file e))
  | .ok true => ((tree.openAddress place).1, false, (tree.openAddress place).2)
  | .ok false =>
    if create then
      match tree.makeDirectories place.dropLast with
      | (tree, none) => ((tree.openAddress place).1, true, (tree.openAddress place).2)
      | (tree, some e) => (tree, false, .error (.file e))
    else (tree, false, .error (.notFound place))

end FileTree

namespace OpenStore

/-- The tree of files after new rows have been written. -/
def commit (store : OpenStore) (database : Database) : FileTree :=
  store.tree.put store.file (.store database)

end OpenStore

/-! ## Loading a snapshot -/

/-- Why a snapshot was not loaded. -/
inductive LoadError where
  | read (error : Snapshot.ReadError)
  | write (error : Database.ImportError)

/-- What loading a snapshot has brought. -/
structure Loaded where
  /-- The documents whose share records were left out. -/
  ignored : List Text
  result : Except LoadError Database

/-- Reads a snapshot and replaces rows by those of the snapshot. -/
def loadSnapshot [Limits] [Engine] (db : Database) (tree : FileTree) (working : Location)
    (path : Text) : Loaded :=
  match Snapshot.load tree working path with
  | .error e => ⟨[], .error (.read e)⟩
  | .ok snapshot =>
    let imported := db.replaceBy snapshot
    ⟨imported.ignored, imported.result.mapError .write⟩

end ContentQuery
