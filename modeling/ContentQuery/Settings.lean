import ContentQuery.FileTree
import ContentQuery.Listing

/-!
# ContentQuery.Settings

The settings of the program, what may be wrong with a file of settings, and what is worth a warning.
-/

namespace ContentQuery

/-- Where the store is, and what searches use where the user does not say otherwise. -/
structure Settings where
  store : FilePath
  scope : Text
  sortField : Text
  direction : Text
  limit : Int
  colored : Bool
  /-- The file that the settings come from, if they come from one. -/
  source : Option FilePath

namespace Settings

/-- The name of the program, which is also the name of its directories for settings and data. -/
def programName : Text := "docquery"

/-- The file of settings that is read if no other is named. -/
def defaultSource (around : Surroundings) : FilePath :=
  around.home.append [".config", programName, "config.toml"]

/-- The store that is used if no other is named. -/
def defaultStore (around : Surroundings) : FilePath :=
  around.home.append [".local", "share", programName, "documents.db"]

/-- The settings that hold without any file. -/
def initial (around : Surroundings) : Settings where
  store := defaultStore around
  scope := "all"
  sortField := SortField.created.word
  direction := Direction.ascending.word
  limit := defaultLimit
  colored := true
  source := none

/-! ## Keys -/

/-- The keys of a file of settings. -/
inductive Key where
  | store
  | scope
  | sortField
  | direction
  | limit
  | colored
  deriving DecidableEq

/-- The table that a key stands in. -/
def Key.table : Key → Text
  | store => "store"
  | scope => "query"
  | sortField => "query"
  | direction => "query"
  | limit => "query"
  | colored => "display"

/-- The name of a key in its table. -/
def Key.name : Key → Text
  | store => "db_path"
  | scope => "default_scope"
  | sortField => "default_sort_by"
  | direction => "default_order"
  | limit => "default_limit"
  | colored => "colored_output"

/-- The full name of a key. -/
def Key.text (key : Key) : Text := key.table ++ "." ++ key.name

/-! ## Problems -/

/-- What is required of a value. -/
inductive Requirement where
  | path
  | string
  | integer
  | boolean
  | oneOf (words : List Text)
  deriving DecidableEq

/-- The wording of a requirement. -/
def Requirement.message : Requirement → Text
  | path => "must be a string path"
  | string => "must be a string"
  | integer => "must be an integer"
  | boolean => "must be a boolean"
  | oneOf words => "must be one of: " ++ Text.joinWith ", " words

/-- What is wrong with a file of settings, so that it is reported. -/
inductive Problem where
  /-- The file is no TOML. -/
  | malformed (source : Location)
  /-- The value under a key is not what is required. -/
  | invalid (key : Key) (requirement : Requirement)

/-- The report of a problem. -/
def Problem.message : Problem → Text
  | malformed source => "Invalid config at " ++ source.text
  | invalid key requirement =>
    "Invalid config value for '" ++ key.text ++ "': " ++ requirement.message

/-- Why there are no settings. All but the first cause end the program. -/
inductive LoadError where
  | reported (problem : Problem)
  /-- The octets of the file are no UTF-8. -/
  | notText
  /-- An integer has too many digits to be converted. -/
  | longInteger
  /-- Values are nested too deep. -/
  | tooDeep
  /-- What stands in the place of a table cannot be asked for a key. -/
  | noTable
  | path (problem : FilePath.Problem)
  | file (error : FileError)

/-! ## Warnings -/

/-- What is worth a warning. -/
inductive Warning where
  | noFile (source : Location)
  | noStore (place : Location)
  | limitOutside (limit : Int)

/-- The wording of a warning. -/
def Warning.message : Warning → Text
  | noFile source =>
    "No config file found at " ++ source.text ++ ". Using defaults. "
      ++ "Create config with: docquery init-config"
  | noStore place => "Document store not found: " ++ place.text
  | limitOutside limit =>
    "query.default_limit=" ++ Text.ofInt limit ++ " is outside valid range 1-"
      ++ Text.ofInt maxLimit ++ ", it will be clamped"

end Settings

end ContentQuery
