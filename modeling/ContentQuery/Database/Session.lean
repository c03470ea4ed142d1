import ContentQuery.Database.File

/-!
# ContentQuery.Database.Session

Sessions on a store. A session opens the store, works on its rows and ends: if the work ends well,
the rows that it has come to are kept, and if it fails, all that it has written is dropped.
-/

namespace ContentQuery

/-- Work on the rows of a store, which may fail. What it has written by then is still there: it is
up to the session to drop it. -/
abbrev Transaction (ε : Type) := ExceptT ε (StateM Database)

namespace Transaction

variable {ε α : Type}

/-- Carries work out on given rows: its result, and the rows that it leaves. -/
def carryOut (work : Transaction ε α) (db : Database) : Except ε α × Database := work.run db

/-- Writes to the rows. -/
def write (step : Database → Except ε Database) : Transaction ε Unit :=
  ExceptT.mk fun db => match step db with
    | .ok written => (.ok (), written)
    | .error e => (.error e, db)

/-! ## Loading a snapshot -/

/-- What a load reports. -/
structure Report where
  /-- The documents whose share records were left out. -/
  ignored : List Text
  /-- The number of documents. -/
  count : Nat

/-- Writes the rows of a snapshot one after another. -/
def insertRows [Engine] (snapshot : Snapshot) : Transaction Database.ImportError Report := do
  let (known, unknown) := snapshot.shares.partition fun share => Database.holds snapshot share.1
  snapshot.entries.forM fun entry => write fun db => db.insertDocument entry
  (Database.sharePairs known).forM fun pair => write fun db => db.insertShare pair
  return ⟨unknown.map (·.1), snapshot.entries.length⟩

/-- Deletes all rows, and then writes those of a snapshot. -/
def replaceBy [Engine] (snapshot : Snapshot) : Transaction Database.ImportError Report := do
  modify Database.deleteShares
  modify Database.deleteDocuments
  if snapshot.entries.all fun entry => Database.isSimple entry.id then insertRows snapshot
  else throw .compositeId

/-- Replaces the rows by those of the snapshot at a path, which is read before anything is
deleted. -/
def load [Limits] [Engine] (tree : FileTree) (working : Location) (path : Text) :
    Transaction LoadError Report :=
  match Snapshot.load tree working path with
  | .error e => throw (.read e)
  | .ok snapshot => ExceptT.adapt .write (replaceBy snapshot)

end Transaction

/-! ## Sessions -/

/-- Why a session fails. -/
inductive SessionError (ε : Type) where
  | opening (error : OpenError)
  | work (error : ε)

namespace FileTree

variable {ε α : Type}

/-- Works on the store at a location. The rows are kept if the work ends well. -/
def session [Engine] (tree : FileTree) (place : Location) (create : Bool)
    (work : OpenStore → Transaction ε α) : FileTree × Except (SessionError ε) α :=
  match tree.openStore place create with
  | (tree, _, .error e) => (tree, .error (.opening e))
  | (tree, _, .ok store) =>
    match (work store).carryOut store.database with
    | (.ok a, database) => (store.commit database, .ok a)
    | (.error e, _) => (tree, .error (.work e))

/-- The rows of the store at a location, if there is one, as they are read in a session of their
own. -/
def rows? [Engine] (tree : FileTree) (place : Location) : Option Database :=
  (tree.session place false fun _ => (get : Transaction Unit Database)).2.toOption

end FileTree

end ContentQuery
