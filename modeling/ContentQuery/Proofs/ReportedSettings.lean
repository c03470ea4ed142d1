import ContentQuery.Proofs.ReportedSnapshot
import ContentQuery.Proofs.Steps
import ContentQuery.Proofs.TomlFaults
import ContentQuery.Proofs.Utf8Form
import ContentQuery.Settings.Loading
import Mathlib

/-!
# ContentQuery.Proofs.ReportedSettings

Which files are reported when they hold no settings. Loading ends with settings or with a report
unless it breaks off, and the causes of that are given here in the order in which they come up:
whether the file can be read, what its octets are, what stands in the place of a table, where the
path of the store leads, and how long the limit is. The file system may answer anything.
-/

namespace ContentQuery

/-- What stands in the place of a table cannot be asked for a key: numbers, truth values and dates
never, a text if the key is a part of it, and an array if the key is an item of it. -/
inductive Toml.Value.Blocks (name : Text) : Toml.Value → Prop
  | integer (n : Int) : Blocks name (.integer n)
  | float (x : Binary64) : Blocks name (.float x)
  | boolean (b : Bool) : Blocks name (.boolean b)
  | moment (source : Text) : Blocks name (.moment source)
  | string {s : Text} : name <:+: s → Blocks name (.string s)
  | array {items : List Toml.Value} : .string name ∈ items → Blocks name (.array items)

namespace Settings

open Toml (Value)

/-! ## Breaking off -/

/-- Whether a failure is reported as a problem with the file. -/
def LoadError.IsReported (e : LoadError) : Prop := ∃ problem, e = .reported problem

variable {α β ε : Type} {e : LoadError}

variable {tables : List (Text × Value)} {key : Key}

/-- The value under a key of a table. -/
def given? (tables : List (Text × Value)) (key : Key) : Option Value :=
  match fieldOf? tables key.table with
  | some (.table fields) => fieldOf? fields key.name
  | _ => none

/-- Whether the table of a key cannot be asked for it. -/
def IsBlocked (tables : List (Text × Value)) (key : Key) : Prop :=
  ∃ v, fieldOf? tables key.table = some v ∧ v.Blocks key.name

/-- Whether a value is of the form that a key requires. -/
def Key.Admits : Key → Value → Prop
  | limit, v => ∃ n, v = .integer n
  | colored, v => ∃ b, v = .boolean b
  | _, v => ∃ s, v = .string s

/-- Whether nothing is wrong with the form of what a key is given. -/
def Fits (tables : List (Text × Value)) (key : Key) : Prop :=
  ¬ IsBlocked tables key ∧ ∀ v ∈ given? tables key, key.Admits v

variable {requirement : Requirement} {convert : Value → Option α} {usual a : α}

/-- The keys that are looked up before a key. -/
def Key.earlier : Key → List Key
  | store => []
  | scope => [store]
  | sortField => [store, scope]
  | direction => [store, scope, sortField]
  | limit => [store, scope, sortField, direction]
  | colored => [store, scope, sortField, direction, limit]

/-- The settings that tables of the right form give. -/
def chosen (initial : Settings) (tables : List (Text × Value)) : Settings where
  store := ((given? tables .store).bind fun v => (asString v).map FilePath.parse).getD initial.store
  scope := ((given? tables .scope).bind asString).getD initial.scope
  sortField := ((given? tables .sortField).bind asString).getD initial.sortField
  direction := ((given? tables .direction).bind asString).getD initial.direction
  limit := ((given? tables .limit).bind asInteger).getD initial.limit
  colored := ((given? tables .colored).bind asBoolean).getD initial.colored
  source := initial.source

variable {around : Surroundings} {files : FileAccess} {settings : Settings}

/-- Whether the words of settings are among those that are allowed. -/
@[mk_iff]
structure HasWords (settings : Settings) : Prop where
  scope : (Scope.ofWord? settings.scope).isSome = true
  sortField : (SortField.ofWord? settings.sortField).isSome = true
  direction : (Direction.ofWord? settings.direction).isSome = true

/-- The octets of a file that are the form of a text with these tables. -/
def HoldsTables [Limits] (octets : List UInt8) (tables : List (Text × Value)) : Prop :=
  ∃ s, Utf8.encode s = some octets ∧ Toml.read Limits.settings s = .ok tables

/-- Why loading the settings from the octets of a file breaks off without a report. -/
inductive Fault [Limits] (around : Surroundings) (files : FileAccess) (octets : List UInt8) :
    LoadError → Prop
  /-- The octets are the form of no text. -/
  | notText : (∀ s, Utf8.encode s ≠ some octets) → Fault around files octets .notText
  /-- The text gives out as TOML at an integer of too many digits. -/
  | longInteger {s : Text} : Utf8.encode s = some octets →
      Toml.DocumentGivesOut Limits.settings (Toml.normalizeLines s) .longInteger →
      Fault around files octets .longInteger
  /-- The text gives out as TOML where values are nested too deep. -/
  | tooDeep {s : Text} : Utf8.encode s = some octets →
      Toml.DocumentGivesOut Limits.settings (Toml.normalizeLines s) .tooDeep →
      Fault around files octets .tooDeep
  /-- What stands in the place of a table cannot be asked for a key, and nothing is wrong with the
  keys that are looked up before. -/
  | noTable {tables : List (Text × Value)} {key : Key} : HoldsTables octets tables →
      (∀ earlier ∈ key.earlier, Fits tables earlier) → IsBlocked tables key →
      Fault around files octets .noTable
  /-- The path of the store cannot be resolved. -/
  | path {tables : List (Text × Value)} {problem : FilePath.Problem} : HoldsTables octets tables →
      (∀ key, Fits tables key) →
      files.resolve around (chosen (initial around) tables).store = .error problem →
      Fault around files octets (.path problem)
  /-- It leads to a place that cannot be looked at. -/
  | file {tables : List (Text × Value)} {store : Location} {error : FileError} :
      HoldsTables octets tables → (∀ key, Fits tables key) →
      files.resolve around (chosen (initial around) tables).store = .ok store →
      files.has store = .error error → Fault around files octets (.file error)
  /-- Nothing else is wrong, and the limit has too many digits to be shown in its warning. -/
  | longLimit {tables : List (Text × Value)} {store : Location} {found : Bool} :
      HoldsTables octets tables → (∀ key, Fits tables key) →
      files.resolve around (chosen (initial around) tables).store = .ok store →
      files.has store = .ok found → (chosen (initial around) tables).HasWords →
      10 ^ Toml.maxDigits ≤ (chosen (initial around) tables).limit.natAbs →
      Fault around files octets .longInteger

/-- Why loading the settings of the file at a place breaks off without a report. -/
inductive Breakdown [Limits] (around : Surroundings) (files : FileAccess) (place : Location) :
    LoadError → Prop
  /-- The file cannot be read. -/
  | file {error : FileError} : files.read place = .error error →
      Breakdown around files place (.file error)
  /-- Its octets are a cause. -/
  | octets {octets : List UInt8} {e : LoadError} : files.read place = .ok octets →
      Fault around files octets e → Breakdown around files place e

variable {source : Option FilePath} {place : Location} {octets : List UInt8}

end Settings

/-! ## Files that are not reported -/

namespace Sample

/-- The root as the working directory, and one home directory. -/
def alone : Surroundings := ⟨[], .ofLocation ["h"], []⟩

/-- What loading the settings of a single file comes to. -/
def loadSettings (octets : List UInt8) :
    Except Settings.LoadError (Settings × List Settings.Warning) :=
  Settings.load alone ((holding octets).access alone) (some (.parse "/s"))

/-- The octets of a file with a text. -/
def octetsOf (s : Text) : List UInt8 := (Utf8.encode s).getD []

end Sample

open Sample

namespace Sample

/-- A file system with a file of settings whose store is behind links that lead in a circle. -/
def circular : FileAccess where
  follow p := if p.names = ["loop"] then .error .linkLoop else p.follow alone
  has _ := .ok true
  read _ := .ok (octetsOf "[store]\ndb_path = \"loop\"\n")

end Sample

end ContentQuery
