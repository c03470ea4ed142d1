import ContentQuery.CommandLine.Program
import ContentQuery.Database.Octets

/-!
# ContentQuery.CommandLine.Reach

Which files a run of the program can look at, and which files are to be written after it.

A run looks at the files that its words name, at the settings and at the store. The place of the
store is known only once the settings have been read, so the files are found in two rounds.
-/

namespace ContentQuery.CommandLine

/-- A location and the locations above it, from the top down. -/
def withAncestors (place : Location) : List Location :=
  (List.range place.length).map fun n => place.take (n + 1)

/-- The paths that a word may name: the word, what is attached to an option by an equals sign, and
what is attached to a letter. -/
def pathsIn (word : Text) : List Text :=
  [word, (word.dropWhile fun (c : CodePoint) => c ≠ '=').drop 1]
    ++ if Arguments.holdsOptions word then (List.range word.length).map fun n => word.drop n else []

/-- The locations of a path, taken as it is written and with a tilde replaced. -/
def locationsOf (around : Surroundings) (path : Text) : List Location :=
  let parsed := FilePath.parse path
  parsed.locate around :: (parsed.resolve around).toOption.toList

/-- The locations that can be named before the settings are known. -/
def namedPlaces (around : Surroundings) (words : List Text) : List Location :=
  [Settings.defaultSource around, Settings.defaultStore around].map (·.locate around)
    ++ (words.flatMap pathsIn).flatMap (locationsOf around)

/-- The location of the store that the settings name. -/
def storePlaces [Limits] (around : Surroundings) (tree : FileTree) (words : List Text) :
    List Location :=
  match readGlobal tree around.working words with
  | .ok (options, _) =>
    match Settings.load around (tree.access around) options.config with
    | .ok (settings, _) => [settings.store.locate around]
    | .error _ => []
  | .error _ => []

/-- The locations at which the files of stores are. -/
def storeFiles [Engine] (places : List Location) : List Location :=
  places.filterMap fun place => (Engine.fileOf place).toOption

/-- The octets of a file in a tree, if there is one. -/
def octetsAt? (tree : FileTree) (place : Location) : Option (List UInt8) :=
  (tree.node? place).bind FileNode.octets?

/-- The directories that one tree has more than another one. -/
def newDirectories (before after : FileTree) : List Location :=
  (after.entries.filter fun entry => match entry.2 with
    | .directory => (before.node? entry.1).isNone
    | _ => false).map (·.1)

/-- The files that are not the same in one tree as in another one, with their octets. -/
def changedFiles (before after : FileTree) : List (Location × List UInt8) :=
  after.entries.filterMap fun (place, node) =>
    match node.octets? with
    | some octets => if octetsAt? before place = some octets then none else some (place, octets)
    | none => none

/-- The home directories in a list of users: in each line the first of the fields between colons is
the name of the user, and the sixth is the home directory. -/
def homesOf (users : Text) : List (Text × FilePath) :=
  (Text.splitOn '\n' users).filterMap fun line =>
    match Text.splitOn ':' line with
    | name :: _ :: _ :: _ :: _ :: home :: _ => some (name, FilePath.parse home)
    | _ => none

end ContentQuery.CommandLine
