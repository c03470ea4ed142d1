import ContentQuery.Database.File
import ContentQuery.Settings.Loading
import ContentQuery.Source
import ContentQuery.Terminal.Markup
import ContentQuery.Terminal.Sequence
import ContentQuery.Terminal.Table

/-!
# ContentQuery.CommandLine.Session

What a command works with: the tree of files, and the two texts that it writes, one for results and
one for reports and logs. A session ends by itself or at a call to `exit`, or it is broken off by a
fault, of which no command makes a report.
-/

namespace ContentQuery.CommandLine

/-- Why a session is broken off. -/
inductive Fault where
  | settings (error : Settings.LoadError)
  | path (problem : FilePath.Problem)
  | file (error : FileError)
  | address (problem : AddressProblem)
  | snapshot (error : Snapshot.ReadError)
  | rows (error : Database.ImportError)
  /-- A search has no result. -/
  | search (cause : Source.Fault Database.FetchError)
  /-- There is no preview of a content. -/
  | preview (error : Payload.WriteError)
  | markup (error : Terminal.MarkupError)
  /-- A result has a surrogate, for which there are no octets. -/
  | surrogate

/-- The wording of a fault, for the user who has to look for its cause. -/
def Fault.message : Fault → Text
  | settings (.reported problem) => problem.message
  | settings (.file e) => e.message
  | settings _ => "the settings cannot be read"
  | path .nullCharacter => "a path holds a null character"
  | path .surrogate => "a path holds a surrogate"
  | path .unknownUser => "a path names a user that is not known"
  | path .linkLoop => "a path leads in a circle"
  | path .noWorkingDirectory => "there is no working directory"
  | file e => e.message
  | address problem => problem.message
  | snapshot _ => "the snapshot cannot be read"
  | rows _ => "the snapshot cannot be kept"
  | search (.broken .longIndex) => "an index in a path is too long"
  | search (.broken (.noContent _)) => "the content of a document cannot be shown"
  | search (.unread .surrogate) => "the name of a user holds a surrogate"
  | search (.unread (.content _)) => "the content of a document cannot be read"
  | preview _ => "the content of a document cannot be shown"
  | markup (.unmatched tag) => "the tag " ++ tag.quoted ++ " closes nothing"
  | markup (.badAction value) => value.quoted ++ " is no action"
  | markup .badNumber => "a colour has a part that is no number"
  | surrogate => "a result holds a surrogate"

/-- How a session ends before its last step. -/
inductive Ending where
  | exit (code : Nat)
  | fault (cause : Fault)

/-- The state of a session. -/
structure Machine where
  around : Surroundings
  /-- The width of the terminal. -/
  columns : Nat
  tree : FileTree
  /-- What has been written as results. -/
  output : Text
  /-- What has been written as reports and logs. -/
  errors : Text

/-- A step of a session. What it has done to the state stays even if it ends the session. -/
abbrev Session := ExceptT Ending (StateM Machine)

namespace Session

/-- Ends the session with an exit code. -/
def exit {α : Type} (code : Nat) : Session α := throw (.exit code)

/-- Breaks the session off. -/
def fault {α : Type} (cause : Fault) : Session α := throw (.fault cause)

/-- Takes a value, or breaks the session off. -/
def orFault {α ε : Type} (cause : ε → Fault) : Except ε α → Session α
  | .ok a => pure a
  | .error e => fault (cause e)

/-- Puts another tree of files into the state. -/
def setTree (tree : FileTree) : Session Unit := modify fun machine => { machine with tree }

/-! ## Writing -/

/-- Writes a result. -/
def write (s : Text) : Session Unit :=
  if s.any CodePoint.isSurrogate then fault .surrogate
  else modify fun machine => { machine with output := machine.output ++ s }

/-- A report with surrogates in the form of escapes. -/
def withoutSurrogates (s : Text) : Text :=
  s.flatMap fun c => if c.isSurrogate then "\\u" ++ Text.ofNatHex 4 c.val else [c]

/-- Writes a report. -/
def writeError (s : Text) : Session Unit :=
  modify fun machine => { machine with errors := machine.errors ++ withoutSurrogates s }

/-- Lines, each with its end. -/
def ended (lines : List Text) : Text := lines.flatMap fun line => line ++ "\n"

/-- Writes lines as results, without control sequences. -/
def print (lines : List Text) : Session Unit := write (Terminal.withoutSequences (ended lines))

/-- Writes lines as a report, without control sequences. -/
def printError (lines : List Text) : Session Unit :=
  writeError (Terminal.withoutSequences (ended lines))

/-- The lines that a message with tags takes on the terminal. -/
def laidOut (message : Text) : Session (List Text) := do
  let text ← orFault .markup (Terminal.Markup.render message)
  return Terminal.layOut .message (← get).columns text

/-- Writes a message with tags as a result. -/
def say (message : Text) : Session Unit := do write (ended (← laidOut message))

/-- Writes a message with tags as a report. -/
def sayError (message : Text) : Session Unit := do writeError (ended (← laidOut message))

/-- A message with tags that style all of it. -/
def styled (style message : Text) : Text := "[" ++ style ++ "]" ++ message ++ "[/" ++ style ++ "]"

/-- Tells the user something. -/
def info (message : Text) : Session Unit := say (styled "info" message)

/-- Tells the user that something has been done. -/
def success (message : Text) : Session Unit := say (styled "success" message)

/-- Warns the user. -/
def warn (message : Text) : Session Unit :=
  sayError (styled "warning" "Warning:" ++ " " ++ Terminal.Markup.escape message)

/-- Reports an error. -/
def error (message : Text) : Session Unit :=
  sayError (styled "error" "Error:" ++ " " ++ Terminal.Markup.escape message)

/-- Tells the user what can be done about an error. -/
def hint (message : Text) : Session Unit :=
  sayError ("  " ++ styled "info" "Hint:" ++ " " ++ message)

/-! ## Logs -/

/-- How much a log line matters. -/
inductive Level where
  | info
  | warning

/-- The word for a level. -/
def Level.word : Level → Text
  | info => "INFO"
  | warning => "WARNING"

/-- What writes to the log. -/
inductive Logger where
  | search
  | loader
  | store

/-- The name of a logger. -/
def Logger.name : Logger → Text
  | search => "docquery.documents.service"
  | loader => "docquery.store.loader"
  | store => "docquery.store.session"

/-- The columns that a level takes in front of a log line. -/
def levelColumns : Nat := 8

/-- The lines of an entry of the log, in the given columns: the level, and the text to the right of
it. -/
def logLines (columns : Nat) (level : Level) (logger : Logger) (message : Text) : List Text :=
  let text := Terminal.Markup.withoutControls (logger.name ++ ": " ++ message)
  match Terminal.layOut .message (columns - (levelColumns + 1)) text with
  | [] => []
  | first :: rest =>
    (level.word.padRight levelColumns ' ' ++ " " ++ first)
      :: rest.map fun line => Terminal.spaces (levelColumns + 1) ++ line

/-- Writes an entry of the log. -/
def log (level : Level) (logger : Logger) (message : Text) : Session Unit := do
  writeError (ended (logLines (← get).columns level logger message))

end Session

end ContentQuery.CommandLine
