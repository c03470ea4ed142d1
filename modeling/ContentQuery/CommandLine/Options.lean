import ContentQuery.CommandLine.Arguments
import ContentQuery.Expression
import ContentQuery.FileTree
import ContentQuery.Text.Numeral

/-!
# ContentQuery.CommandLine.Options

The commands of the program, the options that they take, and what a command line asks for.

Words are first sorted into options and arguments. Then a wish for help comes before any problem,
then the problems with given values are reported in the order in which the options are given, and
last what is missing or too much.
-/

namespace ContentQuery.CommandLine

/-- The commands. -/
inductive Command where
  | check
  | query
  | load
  | initConfig
  deriving DecidableEq

namespace Command

/-- Every command, by name. -/
def every : List Command := [check, initConfig, load, query]

/-- The name of a command. -/
def name : Command → Text
  | check => "check"
  | query => "query"
  | load => "load"
  | initConfig => "init-config"

/-- The command with a given name. -/
def ofName? (s : Text) : Option Command := every.find? fun command => command.name = s

end Command

/-! ## Refusals -/

/-- Why a command line is not carried out. -/
inductive Refusal where
  | usage (problem : UsageProblem)
  /-- Help is asked for. -/
  | help
  /-- The version is asked for. -/
  | version
  /-- A path that no file can have. -/
  | path (problem : FilePath.Problem)

/-- Sorts words by the options of a command. -/
def sortWords {κ : Type} (forms : List (OptionForm κ)) (mixed : Bool) (words : List Text) :
    Except Refusal (Arguments κ) :=
  (Arguments.parse forms mixed words).mapError .usage

/-- Refuses arguments for the first wish that stops the program, or else for the first problem. -/
def refuse {κ : Type} [DecidableEq κ] (arguments : Arguments κ) (wish? : κ → Option Refusal)
    (problem? : κ → Text → Option Refusal) : Except Refusal Unit :=
  match arguments.keys.findSome? wish? <|> arguments.firstProblem? problem? with
  | some refusal => .error refusal
  | none => .ok ()

/-- Refuses arguments that no parameter takes. -/
def refuseMore (others : List Text) : Except Refusal Unit :=
  if others.isEmpty then .ok () else .error (.usage (.tooMany others))

/-- The names by which an option is reported. -/
def shownName {κ : Type} [DecidableEq κ] (forms : List (OptionForm κ)) (key : κ) : Text :=
  ((forms.find? fun form => form.key = key).map OptionForm.shown).getD []

/-! ## Paths -/

/-- What is asked of the file at a path. -/
structure FileNeeds where
  /-- Whether there has to be one. -/
  present : Bool
  /-- Whether it may be a directory. -/
  directory : Bool

/-- The reason to refuse a path, if there is one. -/
def pathRefusal? (tree : FileTree) (working : Location) (needs : FileNeeds)
    (parameter path : Text) : Option Refusal :=
  match FilePath.check path with
  | .error problem => some (.path problem)
  | .ok () =>
    match tree.lookUp working path with
    | .ok (_, .directory) =>
      if needs.directory then none else some (.usage (.isDirectory parameter path))
    | .ok _ => none
    | .error _ => if needs.present then some (.usage (.noFile parameter path)) else none

/-! ## Options of all commands -/

/-- The options that stand before the command. -/
inductive GlobalKey where
  | config
  | store
  | noColor
  | verbose
  | debug
  | quiet
  | pager
  | noPager
  | version
  | help
  deriving DecidableEq

/-- The form of each option that stands before the command. -/
def globalForms : List (OptionForm GlobalKey) :=
  [⟨.config, "--config", some 'c', true⟩, ⟨.store, "--db", some 'd', true⟩,
    ⟨.noColor, "--no-color", none, false⟩, ⟨.verbose, "--verbose", some 'v', false⟩,
    ⟨.debug, "--debug", none, false⟩, ⟨.quiet, "--quiet", some 'q', false⟩,
    ⟨.pager, "--pager", none, false⟩, ⟨.noPager, "--no-pager", none, false⟩,
    ⟨.version, "--version", none, false⟩, ⟨.help, "--help", none, false⟩]

/-- What the options before the command ask for. -/
structure GlobalOptions where
  config : Option FilePath
  store : Option FilePath
  verbose : Bool
  debug : Bool
  quiet : Bool

/-- The reason to refuse the value of an option that stands before the command. -/
def globalRefusal? (tree : FileTree) (working : Location) (key : GlobalKey) (value : Text) :
    Option Refusal :=
  match key with
  | .config => pathRefusal? tree working ⟨false, true⟩ (shownName globalForms key) value
  | .store => pathRefusal? tree working ⟨false, false⟩ (shownName globalForms key) value
  | _ => none

/-- The wish to see the version, or help. -/
def globalWish? : GlobalKey → Option Refusal
  | .version => some .version
  | .help => some .help
  | _ => none

/-- Reads the options before the command. The words from the command on come back, too. -/
def readGlobal (tree : FileTree) (working : Location) (words : List Text) :
    Except Refusal (GlobalOptions × List Text) := do
  let arguments ← sortWords globalForms false words
  refuse arguments globalWish? (globalRefusal? tree working)
  let options : GlobalOptions := {
    config := (arguments.value? .config).map FilePath.parse
    store := (arguments.value? .store).map FilePath.parse
    verbose := arguments.has .verbose || arguments.has .debug
    debug := arguments.has .debug
    quiet := arguments.has .quiet }
  return (options, arguments.others)

/-- Reads the name of the command, and gives it with the words after it. Words that stand in its
place after the end of the options are read as options once more, so that what is wrong with them is
reported first. -/
def readCommand (tree : FileTree) (working : Location) :
    List Text → Except Refusal (Command × List Text)
  | [] => .error (.usage .noCommand)
  | name :: rest =>
    match Command.ofName? name with
    | some command => .ok (command, rest)
    | none => do
      let _ ← readGlobal tree working (name :: rest)
      let close := Similarity.closest name (Command.every.map Command.name)
      throw (.usage (.unknownCommand name close))

/-! ## Queries -/

/-- A content query as it is given: on one line, or in parts. -/
inductive GivenQuery where
  | line (expression : Text)
  | parts (items : List Text)

/-- The parts of a given query. -/
def GivenQuery.toParts : GivenQuery → Except SyntaxProblem (List Text)
  | line expression => Expression.split expression
  | parts items => .ok items

/-- Chooses the form in which a query is given; both at once are refused. -/
def givenQuery (line : Option Text) (parts : List Text) : Except Refusal GivenQuery :=
  match line with
  | none => .ok (.parts parts)
  | some line => if parts.isEmpty then .ok (.line line) else .error (.usage .twoQueries)

/-! ## Checking -/

/-- The options for checking a query. -/
inductive CheckKey where
  | line
  | part
  | help
  deriving DecidableEq

/-- The form of each option for checking a query. -/
def checkForms : List (OptionForm CheckKey) :=
  [⟨.line, "--where", some 'w', true⟩, ⟨.part, "--token", some 't', true⟩,
    ⟨.help, "--help", none, false⟩]

/-- Reads what is to be checked. -/
def readCheck (words : List Text) : Except Refusal GivenQuery := do
  let arguments ← sortWords checkForms true words
  refuse arguments (fun key => if key = .help then some .help else none) fun _ _ => none
  refuseMore arguments.others
  givenQuery (arguments.value? .line) (arguments.values .part)

/-! ## Searching -/

/-- The forms in which documents are listed. -/
inductive Format where
  | table
  | json
  | ids
  deriving DecidableEq

/-- The word for a format. -/
def Format.word : Format → Text
  | table => "table"
  | json => "json"
  | ids => "ids"

/-- Every format, in the order in which they are offered. -/
def Format.every : List Format := [table, json, ids]

/-- The format that a word stands for. -/
def Format.ofWord? (s : Text) : Option Format := every.find? fun format => format.word = s

/-- The options of a search. -/
inductive QueryKey where
  | user
  | scope
  | line
  | part
  | sortField
  | direction
  | page
  | limit
  | format
  | help
  deriving DecidableEq

/-- The form of each option of a search. -/
def queryForms : List (OptionForm QueryKey) :=
  [⟨.user, "--user", some 'u', true⟩, ⟨.scope, "--scope", some 's', true⟩,
    ⟨.line, "--where", some 'w', true⟩, ⟨.part, "--token", some 't', true⟩,
    ⟨.sortField, "--sort-by", none, true⟩, ⟨.direction, "--order", none, true⟩,
    ⟨.page, "--page", some 'p', true⟩, ⟨.limit, "--limit", some 'l', true⟩,
    ⟨.format, "--format", some 'f', true⟩, ⟨.help, "--help", none, false⟩]

/-- What a search is asked for. What is not given is left to the settings. -/
structure QueryOptions where
  user : Text
  scope : Option Text
  query : GivenQuery
  sortField : Option Text
  direction : Option Text
  page : Int
  limit : Option Int
  format : Format

/-- The page that is shown if none is asked for. -/
def firstPage : Int := 1

/-- The reason to refuse the value of an option of a search. -/
def queryRefusal? (key : QueryKey) (value : Text) : Option Refusal :=
  let parameter := shownName queryForms key
  let integer := if (Numeral.integer? value).isSome then none
    else some (Refusal.usage (.notInteger parameter value))
  match key with
  | .page => integer
  | .limit => integer
  | .format =>
    if (Format.ofWord? value).isSome then none
    else some (.usage (.notChoice parameter value (Format.every.map Format.word)))
  | _ => none

/-- Reads what a search is asked for. -/
def readQuery (words : List Text) : Except Refusal QueryOptions := do
  let arguments ← sortWords queryForms true words
  refuse arguments (fun key => if key = .help then some .help else none) queryRefusal?
  let some user := arguments.value? .user
    | throw (.usage (.optionMissing (shownName queryForms .user)))
  refuseMore arguments.others
  let query ← givenQuery (arguments.value? .line) (arguments.values .part)
  return {
    user
    scope := arguments.value? .scope
    query
    sortField := arguments.value? .sortField
    direction := arguments.value? .direction
    page := ((arguments.value? .page).bind Numeral.integer?).getD firstPage
    limit := (arguments.value? .limit).bind Numeral.integer?
    format := ((arguments.value? .format).bind Format.ofWord?).getD .table }

/-! ## Loading -/

/-- The only option for loading a snapshot. -/
inductive LoadKey where
  | help
  deriving DecidableEq

/-- The form of the option for loading a snapshot. -/
def loadForms : List (OptionForm LoadKey) := [⟨.help, "--help", none, false⟩]

/-- The name of the argument that gives the snapshot. -/
def snapshotName : Text := "'SNAPSHOT'"

/-- Reads the path of the snapshot that is to be loaded. -/
def readLoad (tree : FileTree) (working : Location) (words : List Text) :
    Except Refusal FilePath := do
  let arguments ← sortWords loadForms true words
  refuse arguments (fun _ => some .help) fun _ _ => none
  match arguments.others with
  | [] => throw (.usage (.argumentMissing snapshotName))
  | path :: others =>
    match pathRefusal? tree working ⟨true, false⟩ snapshotName path with
    | some refusal => throw refusal
    | none =>
      refuseMore others
      return FilePath.parse path

/-! ## Creating settings -/

/-- The options for creating a file of settings. -/
inductive CreateKey where
  | force
  | target
  | help
  deriving DecidableEq

/-- The form of each option for creating a file of settings. -/
def createForms : List (OptionForm CreateKey) :=
  [⟨.force, "--force", some 'f', false⟩, ⟨.target, "--output", some 'o', true⟩,
    ⟨.help, "--help", none, false⟩]

/-- The file of settings that is to be created. -/
structure CreateOptions where
  /-- Whether a file that is there is replaced. -/
  force : Bool
  target : Option FilePath

/-- Reads which file of settings is to be created. -/
def readCreate (tree : FileTree) (working : Location) (words : List Text) :
    Except Refusal CreateOptions := do
  let arguments ← sortWords createForms true words
  refuse arguments (fun key => if key = .help then some .help else none) fun key value =>
    match key with
    | .target =>
      pathRefusal? tree working ⟨false, true⟩ (shownName createForms .target) value
    | _ => none
  refuseMore arguments.others
  return ⟨arguments.has .force, (arguments.value? .target).map FilePath.parse⟩

/-! ## Actions -/

/-- What a command line asks for. -/
inductive Action where
  | check (query : GivenQuery)
  | query (options : QueryOptions)
  | load (snapshot : FilePath)
  | create (options : CreateOptions)

/-- Reads the words after the name of a command. -/
def readAction (tree : FileTree) (working : Location) (command : Command) (words : List Text) :
    Except Refusal Action :=
  match command with
  | .check => (readCheck words).map .check
  | .query => (readQuery words).map .query
  | .load => (readLoad tree working words).map .load
  | .initConfig => (readCreate tree working words).map .create

end ContentQuery.CommandLine
