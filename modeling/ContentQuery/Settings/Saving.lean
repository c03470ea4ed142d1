import ContentQuery.Settings
import ContentQuery.Text.Utf8
import ContentQuery.Toml.Writer

/-!
# ContentQuery.Settings.Saving

Writing settings to a file from which they can be loaded again.
-/

namespace ContentQuery.Settings

/-- Why settings were not saved. -/
inductive SaveError where
  | path (problem : FilePath.Problem)
  | file (error : FileError)
  /-- A text has a surrogate, for which there are no octets. -/
  | surrogate
  /-- The limit has too many digits to be written. -/
  | longInteger

/-- The sections of a file of settings. -/
def sections (settings : Settings) : List Toml.Section :=
  [⟨Key.store.table, [(Key.store.name, .string settings.store.text)]⟩,
    ⟨Key.scope.table, [
      (Key.scope.name, .string settings.scope),
      (Key.sortField.name, .string settings.sortField),
      (Key.direction.name, .string settings.direction),
      (Key.limit.name, .integer settings.limit)]⟩,
    ⟨Key.colored.table, [(Key.colored.name, .boolean settings.colored)]⟩]

/-- The text of a file of settings. -/
def text [Toml.Writer] (settings : Settings) : Text := Toml.Writer.write settings.sections

/-- The most digits of a limit that is written. -/
def maxLimitDigits : Nat := 4300

/-- The octets of a file of settings. -/
def octets [Toml.Writer] (settings : Settings) : Except SaveError (List UInt8) :=
  if Nat.pow 10 maxLimitDigits ≤ settings.limit.natAbs then .error .longInteger
  else match Utf8.encode settings.text with
    | some octets => .ok octets
    | none => .error .surrogate

/-- Saves settings: to the file that is named, or else to the one they come from, or else to the
usual one. Directories that are missing are created. -/
def save [Toml.Writer] (around : Surroundings) (tree : FileTree) (settings : Settings)
    (target : Option FilePath) : Except SaveError FileTree := do
  let path := (target <|> settings.source).getD (defaultSource around)
  let place ← (path.resolve around).mapError .path
  match tree.makeDirectories place.dropLast with
  | (_, some e) => throw (.file e)
  | (tree, none) => (tree.write place (← settings.octets)).mapError .file

end ContentQuery.Settings
