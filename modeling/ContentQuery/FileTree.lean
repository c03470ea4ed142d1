import ContentQuery.Database
import ContentQuery.FilePath
import ContentQuery.Text.Quoted

/-!
# ContentQuery.FileTree

Directories and files: looking up, reading, writing and creating them, with the reasons why that may
fail. In a tree of files there are no links, and nothing in it is forbidden.
-/

namespace ContentQuery

/-- What stands at a location. -/
inductive FileNode where
  | directory
  | file (octets : List UInt8)
  /-- A file that holds a document store; as text it cannot be read. -/
  | store (database : Database)

/-- Directories and files by location. The root is a directory in every tree. -/
structure FileTree where
  entries : List (Location × FileNode)

/-- Why a file cannot be used. -/
inductive FileProblem where
  | missing
  | exists
  | notDirectory
  | isDirectory
  | nameTooLong
  | notPermitted
  /-- Any other problem that a file system reports. -/
  | other (number : Nat) (wording : Text)
  deriving DecidableEq

/-- A file that cannot be used, by the path that was given. -/
structure FileError where
  problem : FileProblem
  path : Text

namespace FileProblem

/-- The number of a problem. -/
def number : FileProblem → Nat
  | missing => 2
  | «exists» => 17
  | notDirectory => 20
  | isDirectory => 21
  | nameTooLong => 36
  | notPermitted => 13
  | other number _ => number

/-- The wording of a problem. -/
def wording : FileProblem → Text
  | missing => "No such file or directory"
  | «exists» => "File exists"
  | notDirectory => "Not a directory"
  | isDirectory => "Is a directory"
  | nameTooLong => "File name too long"
  | notPermitted => "Permission denied"
  | other _ wording => wording

end FileProblem

/-- The report of a problem with a file. -/
def FileError.message (e : FileError) : Text :=
  "[Errno " ++ Text.ofNat e.problem.number ++ "] " ++ e.problem.wording ++ ": " ++ e.path.quoted

namespace FileTree

/-- What stands at a location, if anything does. -/
def node? (tree : FileTree) (place : Location) : Option FileNode :=
  if place = [] then some .directory
  else (tree.entries.find? fun entry => entry.1 = place).map (·.2)

/-- The tree with something put at a location. -/
def put (tree : FileTree) (place : Location) (node : FileNode) : FileTree :=
  ⟨(place, node) :: tree.entries.filter fun entry => entry.1 ≠ place⟩

/-- A tree that has only directories. -/
def ofDirectories (places : List Location) : FileTree := ⟨places.map (·, .directory)⟩

/-! ## Going along a path -/

/-- The number of octets of a text in a path. -/
def octetLength (s : Text) : Nat := (FilePath.octets s).length

/-- The most octets of a name. -/
def maxName : Nat := 255

/-- The number of octets that a whole path stays below. -/
def maxPath : Nat := 4096

/-- Goes along names from a location. Each name, also an empty one and a dot, needs a directory to
start from. -/
def walk (tree : FileTree) (place : Location) : List Text → Except FileProblem Location
  | [] => .ok place
  | name :: rest =>
    match tree.node? place with
    | some .directory =>
      if !FilePath.isName name then walk tree place rest
      else if name = ".." then walk tree place.dropLast rest
      else if maxName < octetLength name then .error .nameTooLong
      else if (tree.node? (place ++ [name])).isNone then .error .missing
      else walk tree (place ++ [name]) rest
    | some _ => .error .notDirectory
    | none => .error .missing

/-- What stands at the end of a path that is taken as it is written, and where. -/
def lookUp (tree : FileTree) (working : Location) (path : Text) :
    Except FileProblem (Location × FileNode) := do
  if path = [] then throw .missing
  if maxPath ≤ octetLength path then throw .nameTooLong
  let start := if path.head? = some ('/' : CodePoint) then [] else working
  let place ← tree.walk start (Text.splitOn '/' path)
  match tree.node? place with
  | some node => return (place, node)
  | none => throw .missing

/-- Whether anything stands at a location. There is no answer where a name is too long to ask. -/
def has (tree : FileTree) (place : Location) : Except FileError Bool :=
  match tree.lookUp [] place.text with
  | .ok _ => .ok true
  | .error .nameTooLong => .error ⟨.nameTooLong, place.text⟩
  | .error _ => .ok false

/-! ## Reading and writing -/

/-- Octets that are no text: what a store file has where text is looked for. -/
def storeOctets : List UInt8 := [0xFF]

/-- The octets of a file. -/
def read (tree : FileTree) (working : Location) (path : Text) : Except FileError (List UInt8) :=
  match tree.lookUp working path with
  | .ok (_, .file octets) => .ok octets
  | .ok (_, .store _) => .ok storeOctets
  | .ok (_, .directory) => .error ⟨.isDirectory, path⟩
  | .error problem => .error ⟨problem, path⟩

/-- What creating something at a location comes to: the problem of the way there, or else whether
something is there already. -/
def room (tree : FileTree) (place : Location) : Except FileProblem (Option FileNode) :=
  match tree.lookUp [] place.text with
  | .ok (_, node) => .ok (some node)
  | .error .missing =>
    match tree.lookUp [] (Location.text place.dropLast) with
    | .ok (_, .directory) => .ok none
    | .ok _ => .error .notDirectory
    | .error problem => .error problem
  | .error problem => .error problem

/-- Creates the directories along names that are missing, from an existing directory down. -/
def createAlong (tree : FileTree) (place : Location) : List Text → FileTree × Option FileError
  | [] => (tree, none)
  | name :: rest =>
    let next := place ++ [name]
    if (tree.node? next).isSome then createAlong tree next rest
    else if maxName < octetLength name then (tree, some ⟨.nameTooLong, Location.text next⟩)
    else createAlong (tree.put next .directory) next rest

/-- Creates a directory and all directories above it that are missing. A directory that is there
stays; those made before a problem arises stay, too. -/
def makeDirectories (tree : FileTree) (place : Location) : FileTree × Option FileError :=
  match tree.lookUp [] place.text with
  | .ok (_, .directory) => (tree, none)
  | .ok _ => (tree, some ⟨.exists, place.text⟩)
  | .error .missing => tree.createAlong [] place
  | .error problem => (tree, some ⟨problem, place.text⟩)

/-- Writes a file, in the place of any file that is there. -/
def write (tree : FileTree) (place : Location) (octets : List UInt8) : Except FileError FileTree :=
  match tree.room place with
  | .ok (some .directory) => .error ⟨.isDirectory, place.text⟩
  | .ok _ => .ok (tree.put place (.file octets))
  | .error problem => .error ⟨problem, place.text⟩

end FileTree

end ContentQuery
