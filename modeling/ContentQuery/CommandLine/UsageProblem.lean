import ContentQuery.FilePath
import ContentQuery.Text.Quoted

/-!
# ContentQuery.CommandLine.UsageProblem

What can be wrong with a command line, each cause with the text that reports it.
-/

namespace ContentQuery.CommandLine

/-- Why a command line cannot be carried out. -/
inductive UsageProblem where
  /-- There is no such option; some options have names that are close. -/
  | unknownOption (name : Text) (close : List Text)
  /-- An option at the end of the line that needs a value. -/
  | valueMissing (option : Text)
  /-- A value for an option that takes none. -/
  | valueRefused (option : Text)
  /-- The value of a parameter is no integer. -/
  | notInteger (parameter value : Text)
  /-- The value of a parameter is none of the words allowed for it. -/
  | notChoice (parameter value : Text) (choices : List Text)
  | noFile (parameter path : Text)
  | isDirectory (parameter path : Text)
  | optionMissing (parameter : Text)
  | argumentMissing (parameter : Text)
  /-- More arguments than the command takes. -/
  | tooMany (arguments : List Text)
  /-- There is no such command; some commands have names that are close. -/
  | unknownCommand (name : Text) (close : List Text)
  | noCommand
  /-- A query in both of its forms. -/
  | twoQueries
  deriving DecidableEq

/-- The hint at names that are close to one that is not known. -/
def closeNames : List Text → Text
  | [] => []
  | [name] => " Did you mean " ++ name.quoted ++ "?"
  | names =>
    " (Did you mean one of: "
      ++ Text.joinWith ", " ((names.mergeSort fun a b => !b.precedes a).map Text.quoted) ++ "?)"

/-- A path as it is shown in a report: the octets in it that are no text are replaced. -/
def shownPath (path : Text) : Text := (Utf8.decodeMended (FilePath.octets path)).quoted

/-- The report that the value of a parameter is not valid. -/
def invalidValue (parameter reason : Text) : Text :=
  "Invalid value for " ++ parameter ++ ": " ++ reason

/-- The report of a problem. -/
def UsageProblem.message : UsageProblem → Text
  | unknownOption name close => "No such option " ++ name.quoted ++ "." ++ closeNames close
  | valueMissing option => "Option " ++ option.quoted ++ " requires an argument."
  | valueRefused option => "Option " ++ option.quoted ++ " does not take a value."
  | notInteger parameter value =>
    invalidValue parameter (value.quoted ++ " is not a valid integer.")
  | notChoice parameter value choices =>
    invalidValue parameter (value.quoted ++ " is not one of "
      ++ Text.joinWith ", " (choices.map Text.quoted) ++ ".")
  | noFile parameter path =>
    invalidValue parameter ("File " ++ shownPath path ++ " does not exist.")
  | isDirectory parameter path =>
    invalidValue parameter ("File " ++ shownPath path ++ " is a directory.")
  | optionMissing parameter => "Missing option " ++ parameter ++ "."
  | argumentMissing parameter => "Missing argument " ++ parameter ++ "."
  | tooMany [argument] => "Got unexpected extra argument (" ++ argument ++ ")"
  | tooMany arguments =>
    "Got unexpected extra arguments (" ++ Text.joinWith " " arguments ++ ")"
  | unknownCommand name close => "No such command " ++ name.quoted ++ "." ++ closeNames close
  | noCommand => "Missing command."
  | twoQueries => "Use either --where or --token, not both"

/-- Whether a problem is reported without a reminder of the usage: the option is known, and only the
value that it should have, or should not have, is at fault. -/
def UsageProblem.isPlain : UsageProblem → Bool
  | valueMissing _ => true
  | valueRefused _ => true
  | _ => false

end ContentQuery.CommandLine
