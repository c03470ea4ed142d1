import ContentQuery.FileAccess
import ContentQuery.Limits
import ContentQuery.Scope
import ContentQuery.Settings
import ContentQuery.Text.Utf8
import ContentQuery.Toml.Reader

/-!
# ContentQuery.Settings.Loading

Reading settings from a file, and checking them.

Keys that a file does not have keep their initial values. All types are checked before any value is,
in a fixed order of keys, and the first problem is reported.
-/

namespace ContentQuery.Settings

open Toml (Value)

/-! ## Values by key -/

/-- The value under a key of a table. Strings and arrays can be asked for a key, too: there is no
value if the key is not a part, or an item, of them. -/
def lookUp (tables : List (Text × Value)) (key : Key) : Except LoadError (Option Value) :=
  match fieldOf? tables key.table with
  | none => .ok none
  | some (.table fields) => .ok (fieldOf? fields key.name)
  | some (.string s) => if Text.occursIn key.name s then .error .noTable else .ok none
  | some (.array items) =>
    if items.any fun item => match item with
      | .string s => s = key.name
      | _ => false
    then .error .noTable else .ok none
  | some _ => .error .noTable

/-- The value under a key in the form that is required, or else the initial value. -/
def valueOr {α : Type} (tables : List (Text × Value)) (key : Key) (requirement : Requirement)
    (convert : Value → Option α) (initial : α) : Except LoadError α := do
  match ← lookUp tables key with
  | none => return initial
  | some v =>
    match convert v with
    | some a => return a
    | none => throw (.reported (.invalid key requirement))

/-- The text that a value is. -/
def asString : Value → Option Text
  | .string s => some s
  | _ => none

/-- The integer that a value is. -/
def asInteger : Value → Option Int
  | .integer n => some n
  | _ => none

/-- The truth value that a value is. -/
def asBoolean : Value → Option Bool
  | .boolean b => some b
  | _ => none

/-- The settings of a document. -/
def ofTables (initial : Settings) (tables : List (Text × Value)) : Except LoadError Settings := do
  let store ← valueOr tables .store .path (fun v => (asString v).map FilePath.parse) initial.store
  let scope ← valueOr tables .scope .string asString initial.scope
  let sortField ← valueOr tables .sortField .string asString initial.sortField
  let direction ← valueOr tables .direction .string asString initial.direction
  let limit ← valueOr tables .limit .integer asInteger initial.limit
  let colored ← valueOr tables .colored .boolean asBoolean initial.colored
  return { initial with store, scope, sortField, direction, limit, colored }

/-! ## Checking -/

/-- Reports a value that is none of the words allowed for it. -/
def require {α : Type} (key : Key) (words : List Text) : Option α → Except LoadError Unit
  | some _ => .ok ()
  | none => .error (.reported (.invalid key (.oneOf words)))

/-- The warning about a limit that lies outside of what pages can hold. A number with too many
digits cannot even be shown. -/
def limitWarnings (limit : Int) : Except LoadError (List Warning) :=
  if 1 ≤ limit ∧ limit ≤ maxLimit then .ok []
  else if Nat.pow 10 Toml.maxDigits ≤ limit.natAbs then .error .longInteger
  else .ok [.limitOutside limit]

/-- Resolves the path of the store and checks the words of the settings. -/
def check (around : Surroundings) (files : FileAccess) (settings : Settings) :
    Except LoadError (Settings × List Warning) := do
  let place ← (files.resolve around settings.store).mapError .path
  let found ← (files.has place).mapError .file
  require .scope (Scope.every.map Scope.word) (Scope.ofWord? settings.scope)
  require .sortField (SortField.every.map SortField.word) (SortField.ofWord? settings.sortField)
  require .direction (Direction.every.map Direction.word) (Direction.ofWord? settings.direction)
  let warnings ← limitWarnings settings.limit
  return ({ settings with store := FilePath.ofLocation place },
    (if found then [] else [.noStore place]) ++ warnings)

/-! ## Loading -/

/-- The document in the octets of a file. -/
def readTables [Limits] (source : Location) (octets : List UInt8) :
    Except LoadError (List (Text × Value)) :=
  match Utf8.decode octets with
  | none => .error .notText
  | some s => (Toml.read Limits.settings s).mapError fun e => match e with
    | .malformed => .reported (.malformed source)
    | .longInteger => .longInteger
    | .tooDeep => .tooDeep

/-- Loads the settings of a file, the usual one if none is named. Without the file the initial
settings hold. -/
def load [Limits] (around : Surroundings) (files : FileAccess) (source : Option FilePath) :
    Except LoadError (Settings × List Warning) := do
  let place ← (files.resolve around (source.getD (defaultSource around))).mapError .path
  if ← (files.has place).mapError .file then
    let octets ← (files.read place).mapError .file
    let tables ← readTables place octets
    let settings ← ofTables { initial around with source := some (.ofLocation place) } tables
    settings.check around files
  else
    let (settings, warnings) ← (initial around).check around files
    return (settings, .noFile place :: warnings)

end ContentQuery.Settings
