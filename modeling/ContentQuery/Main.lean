import ContentQuery.CommandLine.Reach
import ContentQuery.Database.Engine.Usual

/-!
# ContentQuery.Main

The program: it reads the files that a run can look at, runs, and writes what has changed.
-/

namespace ContentQuery.Main

open CommandLine

/-- The text of a string of the system. -/
def textOf (s : String) : Text := Text.ofString s

/-- The string of a text, for the system. Surrogates are replaced, since no string can hold them. -/
def stringOf (s : Text) : String :=
  String.ofList (s.map fun c => if c.isSurrogate then Char.ofNat 0xFFFD else Char.ofNat c.val)

/-- The path of a location, for the system. -/
def pathOf (place : Location) : String := stringOf place.text

/-- The users and the directories that paths start from. -/
def readSurroundings : IO Surroundings := do
  let working := (FilePath.parse (textOf (← IO.currentDir).toString)).names
  let home := (← IO.getEnv "HOME").getD "/"
  let users ← try IO.FS.readFile "/etc/passwd" catch _ => pure ""
  return ⟨working, FilePath.parse (textOf home), homesOf (textOf users)⟩

/-- The tree with what the file system has at a location. -/
def readPlace (tree : FileTree) (place : Location) : IO FileTree := do
  if (tree.node? place).isSome then return tree
  let path := (← IO.currentDir) / pathOf place
  if ← path.isDir then return tree.put place .directory
  if ← path.pathExists then
    return tree.put place (.ofOctets (← IO.FS.readBinFile path).toList)
  return tree

/-- The tree with what the file system has at locations and above them. -/
def readPlaces (tree : FileTree) (places : List Location) : IO FileTree :=
  (places.flatMap withAncestors).foldlM readPlace tree

/-- Writes what a run has changed. -/
def writeChanges (before after : FileTree) : IO Unit := do
  for place in newDirectories before after do
    IO.FS.createDirAll (pathOf place)
  for (place, octets) in changedFiles before after do
    IO.FS.writeBinFile (pathOf place) ⟨octets.toArray⟩

/-- The width of a terminal that does not tell its width. -/
def usualColumns : Nat := 80

/-- Runs the program on the files of the system. -/
def runOnSystem (arguments : List String) : IO UInt32 := do
  let words := arguments.map textOf
  let around ← readSurroundings
  let columns := ((← IO.getEnv "COLUMNS").bind String.toNat?).getD usualColumns
  let named ← readPlaces ⟨[]⟩ (around.working :: namedPlaces around words)
  let stores := storePlaces around named words
  let tree ← readPlaces named (stores ++ storeFiles (stores ++ namedPlaces around words))
  let outcome := run around columns tree words
  writeChanges tree outcome.tree
  IO.print (stringOf outcome.output)
  IO.eprint (stringOf outcome.errors)
  if let some cause := outcome.fault then
    IO.eprintln (stringOf (Settings.programName ++ ": " ++ cause.message))
  return outcome.exitCode.toUInt32

end ContentQuery.Main

/-- Runs the program with the words of the command line. -/
def main (arguments : List String) : IO UInt32 := ContentQuery.Main.runOnSystem arguments
