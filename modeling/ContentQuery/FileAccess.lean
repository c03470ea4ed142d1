import ContentQuery.FileTree

/-!
# ContentQuery.FileAccess

What a file system answers when it is asked about paths. A tree of files gives such answers, but it
knows no links, and everything in it may be looked at; a real file system may answer otherwise.
-/

namespace ContentQuery

/-- The answers of a file system. -/
structure FileAccess where
  /-- The location that a path leads to when all links are followed. -/
  follow : FilePath → Except FilePath.Problem Location
  /-- Whether anything stands at a location. -/
  has : Location → Except FileError Bool
  /-- The octets of the file at a location. -/
  read : Location → Except FileError (List UInt8)

/-- The location of a path that may begin with a tilde. -/
def FileAccess.resolve (files : FileAccess) (around : Surroundings) (p : FilePath) :
    Except FilePath.Problem Location := do
  files.follow (← p.expandHome around)

/-- The answers that a tree of files gives. -/
def FileTree.access (tree : FileTree) (around : Surroundings) : FileAccess where
  follow p := p.follow around
  has := tree.has
  read place := tree.read [] place.text

end ContentQuery
