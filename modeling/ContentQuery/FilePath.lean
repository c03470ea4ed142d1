import ContentQuery.Text.Utf8

/-!
# ContentQuery.FilePath

Paths of files, as they are written and as they are resolved.

A path keeps its parent steps until it is resolved; empty names and single dots mean nothing and are
dropped at once, so that a path is written in one way only. A location is a resolved path: the names
from the root down.
-/

namespace ContentQuery

/-- The names from the root down to a file. -/
abbrev Location := List Text

/-- What a path starts from. -/
inductive FilePath.Anchor where
  | relative
  | root
  /-- Exactly two slashes, which are kept apart from one. -/
  | twoSlashes
  deriving DecidableEq

/-- A path without empty names and single dots. -/
structure FilePath where
  anchor : FilePath.Anchor
  names : List Text
  deriving DecidableEq

/-- What resolving a path needs to know. -/
structure Surroundings where
  /-- The directory that relative paths start from. -/
  working : Location
  /-- The home directory of the user. -/
  home : FilePath
  /-- The home directories of the known users. -/
  homes : List (Text × FilePath)

namespace FilePath

/-- Whether a name takes part in a path. -/
def isName (s : Text) : Bool := s ≠ [] && s ≠ "."

/-- The anchor that the slashes at the front of a path stand for. -/
def anchorOf (s : Text) : Anchor :=
  match (s.takeWhile fun (c : CodePoint) => c = '/').length with
  | 0 => .relative
  | 2 => .twoSlashes
  | _ => .root

/-- Reads a path. Every text is one. -/
def parse (s : Text) : FilePath := ⟨anchorOf s, (Text.splitOn '/' s).filter isName⟩

/-- The text of an anchor. -/
def Anchor.text : Anchor → Text
  | relative => []
  | root => "/"
  | twoSlashes => "//"

/-- The text of a path; a dot for the path without any names. -/
def text (p : FilePath) : Text :=
  match p.anchor.text ++ Text.joinWith "/" p.names with
  | [] => "."
  | s => s

/-- The path one goes along a path and then along more names. -/
def append (p : FilePath) (names : List Text) : FilePath := ⟨p.anchor, p.names ++ names⟩

/-- The path of a location. -/
def ofLocation (place : Location) : FilePath := ⟨.root, place⟩

/-! ## Texts that are no paths -/

/-- Why a text is the path of no file. -/
inductive Problem where
  /-- It has a null character. -/
  | nullCharacter
  /-- It has a surrogate, for which there are no octets. -/
  | surrogate
  /-- It names the home directory of a user that is not known. -/
  | unknownUser
  /-- Links on the way lead back to where it has led before. -/
  | linkLoop
  /-- It is relative, and the working directory is gone. -/
  | noWorkingDirectory
  deriving DecidableEq

/-- The octet that a surrogate stands for, in names that are not proper text. -/
def isRawOctet (c : CodePoint) : Bool := 0xDC80 ≤ c.val && c.val ≤ 0xDCFF

/-- The octets of a path or a name. -/
def octets (s : Text) : List UInt8 :=
  s.flatMap fun c => if isRawOctet c then [(c.val - 0xDC00).toUInt8] else Utf8.octets c

/-- Refuses texts that no file system takes. -/
def check (s : Text) : Except Problem Unit :=
  if s.any fun (c : CodePoint) => c.isSurrogate && !isRawOctet c then .error .surrogate
  else if s.any fun (c : CodePoint) => c.val = 0 then .error .nullCharacter
  else .ok ()

/-! ## Resolving -/

/-- The home directory that a name beginning with a tilde stands for. -/
def homeOf (around : Surroundings) (user : Text) : Except Problem FilePath :=
  if user = [] then .ok around.home
  else do
    check user
    match around.homes.find? fun entry => entry.1 = user with
    | some (_, home) => .ok home
    | none => .error .unknownUser

/-- Replaces a tilde at the front by the home directory that it stands for. -/
def expandHome (around : Surroundings) (p : FilePath) : Except Problem FilePath :=
  match p.anchor, p.names with
  | .relative, (c :: user) :: names =>
    if c = '~' then return (← homeOf around user).append names else .ok p
  | _, _ => .ok p

/-- Goes down one name, or up for two dots; there is nothing above the root. -/
def step (place : Location) (name : Text) : Location :=
  if name = ".." then place.dropLast else place ++ [name]

/-- The location of a path. -/
def locate (around : Surroundings) (p : FilePath) : Location :=
  p.names.foldl step (if p.anchor = .relative then around.working else [])

/-- The location of a path, if a file can have it. -/
def follow (around : Surroundings) (p : FilePath) : Except Problem Location :=
  (check p.text).map fun _ => p.locate around

/-- The location of a path that may begin with a tilde. -/
def resolve (around : Surroundings) (p : FilePath) : Except Problem Location := do
  (← p.expandHome around).follow around

end FilePath

namespace Location

/-- The location that lies below another one. -/
def below (place : Location) (names : List Text) : Location := place ++ names

/-- The text of a location. -/
def text (place : Location) : Text := (FilePath.ofLocation place).text

end Location

end ContentQuery
