import ContentQuery.CommandLine.Commands
import ContentQuery.CommandLine.Help

/-!
# ContentQuery.CommandLine.Program

The program as a whole: from the words of a command line to what is written and what becomes of the
files.

The options before the command are read first, then the settings are loaded, and only then the words
after the command are read.
-/

namespace ContentQuery.CommandLine

open Session

/-- The exit code for a command line that cannot be carried out. -/
def usageFailure : Nat := 2

/-- The exit code for settings that cannot be used, and for faults. -/
def failure : Nat := 1

/-- Ends the session for a refusal. -/
def refuseLine {α : Type} (command : Option Command) : Refusal → Session α
  | .usage problem => do
    printError (usageReport command problem)
    exit usageFailure
  | .help => do
    print (helpLines command)
    exit 0
  | .version => do
    print [versionLine]
    exit 0
  | .path problem => fault (.path problem)

/-- Takes what has been read from the command line, or ends the session. -/
def orRefuse {α : Type} (command : Option Command) : Except Refusal α → Session α
  | .ok a => pure a
  | .error refusal => refuseLine command refusal

/-- Loads the settings. A file with a problem does not keep the user from creating a new one. -/
def loadSettings [Limits] (options : GlobalOptions) (command : Command) :
    Session (Settings × List Settings.Warning) := do
  let machine ← get
  match Settings.load machine.around (machine.tree.access machine.around) options.config with
  | .ok loaded => return loaded
  | .error (.reported problem) =>
    if command = .initConfig then return (Settings.initial machine.around, [])
    error problem.message
    hint "Fix the file or recreate it with: docquery init-config --force"
    exit failure
  | .error e => fault (.settings e)

/-- The settings with the store that the command line names, if it names one. -/
def withStore (options : GlobalOptions) (settings : Settings) : Session Settings :=
  match options.store with
  | none => return settings
  | some path => do
    let place ← orFault .path (path.resolve (← get).around)
    return { settings with store := .ofLocation place }

/-- Whether a warning about the settings concerns a search; a missing store is reported later. -/
def concernsSearch : Settings.Warning → Bool
  | .noStore _ => false
  | _ => true

/-- Loads the settings that a command goes by, and warns of what is wrong with them. -/
def prepare [Limits] (options : GlobalOptions) (command : Command) : Session Context := do
  let (settings, warnings) ← loadSettings options command
  let settings ← withStore options settings
  if command = .query && !options.quiet then
    for warning in warnings.filter concernsSearch do
      warn warning.message
  return ⟨options, settings⟩

/-- Carries out a command line. Without any words it shows what could be asked for. -/
def carryOut [Limits] [Engine] (words : List Text) : Session Unit := do
  if words = [] then
    printError (helpLines none)
    exit usageFailure
  let ⟨around, _, tree, _, _⟩ ← get
  let (options, rest) ← orRefuse none (readGlobal tree around.working words)
  let (command, rest) ← orRefuse none (readCommand tree around.working rest)
  let context ← prepare options command
  let action ← orRefuse (some command) (readAction tree around.working command rest)
  action.perform context

/-- What a run of the program comes to. -/
structure Outcome where
  tree : FileTree
  output : Text
  errors : Text
  exitCode : Nat
  /-- The fault that broke the run off, if one did. -/
  fault : Option Fault

/-- Runs the program on a tree of files. -/
def run [Limits] [Engine] (around : Surroundings) (columns : Nat) (tree : FileTree)
    (words : List Text) : Outcome :=
  let (result, machine) := (carryOut words).run.run ⟨around, columns, tree, [], []⟩
  let outcome : Outcome := ⟨machine.tree, machine.output, machine.errors, 0, none⟩
  match result with
  | .ok () => outcome
  | .error (.exit code) => { outcome with exitCode := code }
  | .error (.fault cause) => { outcome with exitCode := failure, fault := some cause }

end ContentQuery.CommandLine
