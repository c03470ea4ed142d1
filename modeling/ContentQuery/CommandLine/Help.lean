import ContentQuery.CommandLine.Options
import ContentQuery.Settings

/-!
# ContentQuery.CommandLine.Help

The usage lines and help texts of the program and its commands, and the version.
-/

namespace ContentQuery.CommandLine

open Settings (programName)

/-- The line that shows the version. -/
def versionLine : Text := programName ++ ", version 0.1.0"

/-- What a usage line says after the name of the program. -/
def usageForm : Option Command → Text
  | none => "[OPTIONS] COMMAND [ARGS]..."
  | some .load => "load [OPTIONS] SNAPSHOT"
  | some command => command.name ++ " [OPTIONS]"

/-- The line that shows how the program, or one of its commands, is called. -/
def usageLine (command : Option Command) : Text :=
  "Usage: " ++ programName ++ " " ++ usageForm command

/-- The words that ask for help on the program or on a command. -/
def helpCall : Option Command → Text
  | none => programName ++ " --help"
  | some command => programName ++ " " ++ command.name ++ " --help"

/-- The reminder of the usage in front of a report. -/
def usageReminder (command : Option Command) : List Text :=
  [usageLine command, "Try '" ++ helpCall command ++ "' for help.", []]

/-- What is written about a command line that cannot be carried out. -/
def usageReport (command : Option Command) (problem : UsageProblem) : List Text :=
  (if problem.isPlain then [] else usageReminder command) ++ [("Error: " : Text) ++ problem.message]

/-! ## Help -/

/-- What the program is for, its options and its commands. -/
def programHelp : List Text :=
  List.map Text.ofString [
    "  docquery: Query JSON documents with a small content query language.",
    "",
    "  Documents live in a store imported from a docserver database snapshot. Queries",
    "  filter by ownership scope and by conditions on the document content, then",
    "  sort and page the matches.",
    "",
    "  Defaults for scope, sorting and page size come from",
    "  ~/.config/docquery/config.toml, or from the file given with --config. Create",
    "  one with: docquery init-config",
    "",
    "  Examples:",
    "",
    "      # Import a snapshot, then list a user's reports",
    "      docquery load database.json",
    "      docquery query --user alice --where 'type equals \"report\"'",
    "",
    "Options:",
    "  -c, --config PATH     TOML settings file to read instead of",
    "                        ~/.config/docquery/config.toml",
    "  -d, --db FILE         Path to the document store (overrides config)",
    "  --no-color            Print plain text without color markup",
    "  -v, --verbose         Log parsed query tokens and per-document evaluation",
    "  --debug               Log every condition result as well (implies --verbose)",
    "  -q, --quiet           Only report errors; skip config warnings and summaries",
    "  --pager / --no-pager  Force pager on/off for result tables (default: auto-",
    "                        detect)",
    "  --version             Show the version and exit.",
    "  --help                Show this message and exit.",
    "",
    "Commands:",
    "  check        Validate a content query without touching the store.",
    "  init-config  Create a new configuration file with default settings.",
    "  load         Replace the store contents with a docserver JSON database...",
    "  query        Find documents visible to a user whose content matches a query."]

/-- How a query is checked. -/
def checkHelp : List Text :=
  List.map Text.ofString [
    "  Parse a content query and show how it was understood.",
    "",
    "  Nothing is read from the store. Exits with status 1 if the query is",
    "  malformed.",
    "",
    "  Examples:",
    "    docquery check --where 'meta.author.name equals-insensitive \"ada\"'",
    "    docquery check --token 'year lessthan 2000' --token or --token 'draft equals true'",
    "",
    "Options:",
    "  -w, --where TEXT  Content query expression, e.g. 'type equals \"report\" and",
    "                    year lessthan 2000'",
    "  -t, --token TEXT  Raw query token (condition, 'and' or 'or'); repeat in",
    "                    order",
    "  --help            Show this message and exit."]

/-- How documents are searched. -/
def queryHelp : List Text :=
  List.map Text.ofString [
    "  Find documents visible to a user whose content matches a query.",
    "",
    "  Conditions have the form PATH OPERATOR VALUE. PATH is a dot-separated path",
    "  into the JSON content (omit it to test the whole content); VALUE is a quoted",
    "  string, a number, true, false or null.",
    "",
    "  Operators:",
    "    equals, notequals, contains, startswith, endswith",
    "    greaterthan, lessthan, greaterthanorequals, lessthanorequals",
    "    Append -insensitive to a string operator for case-insensitive matching.",
    "",
    "  Examples:",
    "    docquery query -u alice --where 'type equals \"report\"'",
    "    docquery query -u alice --where 'tags contains \"urgent\" or priority greaterthan 3'",
    "    docquery query -u bob --scope shared --token 'title startswith \"Q1\"' --format ids",
    "",
    "Options:",
    "  -u, --user TEXT                Profile id of the caller; scope is relative",
    "                                 to this user  [required]",
    "  -s, --scope TEXT               owned, shared or all (default: from config,",
    "                                 usually all)",
    "  -w, --where TEXT               Content query expression, e.g. 'type equals",
    "                                 \"report\" and year lessthan 2000'",
    "  -t, --token TEXT               Raw query token (condition, 'and' or 'or');",
    "                                 repeat in order",
    "  --sort-by TEXT                 creation_date or last_modified_date (default:",
    "                                 from config)",
    "  --order TEXT                   asc or desc (default: from config)",
    "  -p, --page INTEGER             Page number  [default: 1]",
    "  -l, --limit INTEGER            Documents per page, 1-100 (default: from",
    "                                 config)",
    "  -f, --format [table|json|ids]  Output format (default: table)",
    "  --help                         Show this message and exit."]

/-- How a snapshot is loaded. -/
def loadHelp : List Text :=
  List.map Text.ofString [
    "  Replace the store contents with a docserver JSON database file.",
    "",
    "  SNAPSHOT is the JSON file written by the document server, holding",
    "  \"documents\" and \"share_records\" maps. Profiles are ignored. The store is",
    "  created if it does not exist yet.",
    "",
    "  Examples:",
    "    docquery load ./database.json",
    "    docquery --db /tmp/docs.db load ./database.json",
    "",
    "Options:",
    "  --help  Show this message and exit."]

/-- How a file of settings is created. -/
def createHelp : List Text :=
  List.map Text.ofString [
    "  Create a new configuration file with default settings.",
    "",
    "  The generated file lists every option with its default value and a short",
    "  comment.",
    "",
    "  Examples:",
    "    docquery init-config",
    "    docquery init-config --output ./docquery.toml",
    "    docquery init-config --force",
    "",
    "Options:",
    "  -f, --force        Overwrite existing config file",
    "  -o, --output PATH  Output path for config file (default:",
    "                     ~/.config/docquery/config.toml)",
    "  --help             Show this message and exit."]

/-- The help on the program or on a command. -/
def helpLines (command : Option Command) : List Text :=
  [usageLine command, []] ++ match command with
    | none => programHelp
    | some .check => checkHelp
    | some .query => queryHelp
    | some .load => loadHelp
    | some .initConfig => createHelp

end ContentQuery.CommandLine
