import ContentQuery.CommandLine.Display
import ContentQuery.CommandLine.Options
import ContentQuery.CommandLine.Session
import ContentQuery.Settings.Template
import ContentQuery.Text.Utf8

/-!
# ContentQuery.CommandLine.Commands

What each command does.

A query that is not well formed, or not allowed, ends a command with exit code 1, and a store that
cannot be used ends it with exit code 2.
-/

namespace ContentQuery.CommandLine

/-- What a command goes by, apart from its own options. -/
structure Context where
  options : GlobalOptions
  settings : Settings

namespace Commands

open Session

/-- The exit code for a query that cannot be run. -/
def queryFailure : Nat := 1

/-- The exit code for a store that cannot be used. -/
def storeFailure : Nat := 2

/-- The hint at the form of conditions. -/
def syntaxHint : Text :=
  "Conditions look like: <path> <operator> <value>, joined by 'and'/'or'"

/-- The report in the place of what the storage layer has to say. -/
def storageReport : Text := "<database error>"

/-- Reports an error in a query and ends the session. -/
def failQuery {α : Type} (e : QueryError) : Session α := do
  error e.message
  if e.kind = .syntaxError then hint syntaxHint
  exit queryFailure

/-- Reports that the store cannot be used and ends the session. -/
def failStore {α : Type} (message : Text) : Session α := do
  error message
  exit storeFailure

/-- The parts of a given query. -/
def partsOf (query : GivenQuery) : Session (List Text) :=
  match query.toParts with
  | .ok parts => pure parts
  | .error problem => failQuery (.malformed problem)

/-- The line that shows how a query has been cut into parts. -/
def partsLine (parts : List Text) : Text :=
  "Query tokens: " ++ Terminal.Markup.escape (Display.listed parts)

/-! ## Checking a query -/

/-- Reads a query and shows how it was understood. -/
def checkQuery (context : Context) (given : GivenQuery) : Session Unit := do
  let parts ← partsOf given
  match Query.parse parts with
  | .error problem => failQuery (.malformed problem)
  | .ok query =>
    if context.options.debug then
      sayError (styled "warning" "\\[DEBUG]" ++ " " ++ partsLine parts)
    match query with
    | none => info "Empty query: every document matches"
    | some query =>
      if !context.options.quiet then
        let table ← orFault .markup (Display.conditionTable query)
        write (ended (table.draw (← get).columns))
      success ("Query is valid (" ++ Display.counted query.conditions.length "condition" ++ ")")

/-! ## Searching -/

/-- The search that is asked for. What is not given comes from the settings. -/
def request (settings : Settings) (options : QueryOptions) (parts : List Text) : SearchRequest where
  user := options.user
  scope := options.scope.getD settings.scope
  parts
  sortField := options.sortField.getD settings.sortField
  direction := options.direction.getD settings.direction
  page := options.page
  limit := options.limit.getD settings.limit

/-- Opens the store for a search. -/
def openForSearch [Engine] (place : Location) : Session Database := do
  let (tree, _, opened) := (← get).tree.openStore place false
  setTree tree
  match opened with
  | .ok store => return store.database
  | .error (.notFound place) =>
    error (storeNotFound place)
    hint "Import a snapshot first with: docquery load SNAPSHOT"
    exit storeFailure
  | .error (.file e) => fault (.file e)
  | .error (.address (.extension _)) => failStore "Store error"
  | .error (.address problem) => fault (.address problem)
  | .error .unusable => failStore "Store error"

/-- The log entry for a document that was skipped. -/
def skippedEntry (skipped : Skipped) : Text :=
  "Error evaluating content query for document " ++ skipped.document ++ ", skipping document: "
    ++ skipped.message

/-- Runs a search on a store and logs what was skipped. -/
def searchIn [Limits] (context : Context) (database : Database) (request : SearchRequest) :
    Session SearchResult := do
  match Search.plan request with
  | .error e => failQuery e
  | .ok plan =>
    let report := database.toSource.run request.user plan
    for skipped in report.skipped do
      log .warning .search (skippedEntry skipped)
    let result ← orFault .search report.result
    if context.options.verbose && !report.skipped.isEmpty then
      log .info .search
        ("Skipped " ++ Text.ofNat report.skipped.length ++ " documents with evaluation errors")
    return result

/-- Lists a page of documents in a table. -/
def listInTable (context : Context) (result : SearchResult) : Session Unit := do
  if result.documents.isEmpty then
    if !context.options.quiet then info (Display.emptyPage result)
  else
    info (Display.pageHeading result)
    let documents ← result.documents.mapM fun d => do
      let preview ← orFault .preview d.content.preview
      return (d, preview)
    let table ← orFault .markup (Display.documentTable documents)
    write (ended (table.draw Display.documentTableWidth))

/-- Searches the store and lists a page of what is found. -/
def searchStore [Limits] [Engine] (context : Context) (options : QueryOptions) : Session Unit := do
  let parts ← partsOf options.query
  if context.options.verbose then info (partsLine parts)
  let database ← openForSearch (context.settings.store.locate (← get).around)
  let result ← searchIn context database (request context.settings options parts)
  match options.format with
  | .table => listInTable context result
  | .json => print [(← orFault .preview result.exported).write .indented]
  | .ids =>
    for d in result.documents do
      print [d.id]

/-! ## Loading a snapshot -/

/-- Opens the store for loading and creates it if there is none. -/
def openForLoad [Engine] (context : Context) (place : Location) : Session OpenStore := do
  let (tree, created, opened) := (← get).tree.openStore place true
  setTree tree
  if created && context.options.verbose then
    log .info .store ("Creating document store: " ++ place.text)
  match opened with
  | .ok store => return store
  | .error (.notFound place) => failStore (storeNotFound place)
  | .error (.file e) => fault (.file e)
  | .error (.address (.extension name)) => failStore (AddressProblem.extension name).message
  | .error (.address problem) => fault (.address problem)
  | .error .unusable => failStore storageReport

/-- Replaces what the store holds by the documents and share records of a snapshot. -/
def load [Limits] [Engine] (context : Context) (snapshot : FilePath) : Session Unit := do
  let around := (← get).around
  let place := context.settings.store.locate around
  if !context.options.quiet then
    info ("Loading " ++ snapshot.text ++ " into " ++ context.settings.store.text)
  let store ← openForLoad context place
  let loaded := loadSnapshot store.database store.tree around.working snapshot.text
  for id in loaded.ignored do
    log .warning .loader (Database.ignoredMessage id)
  match loaded.result with
  | .error (.read (.invalid problem)) => failStore (Snapshot.report snapshot.text problem)
  | .error (.read e) => fault (.snapshot e)
  | .error (.write .rejected) => failStore storageReport
  | .error (.write e) => fault (.rows e)
  | .ok database =>
    let count := database.documents.length
    if context.options.verbose then
      log .info .loader ("Imported " ++ Text.ofNat count ++ " documents and "
        ++ Text.ofNat database.shares.length ++ " shares from " ++ snapshot.text)
    setTree (store.commit database)
    success ("Imported " ++ Display.counted count "document")

/-! ## Creating a file of settings -/

/-- Reports that the file of settings cannot be written and ends the session. -/
def failCreate {α : Type} (e : FileError) : Session α := do
  error ("Failed to write config file: " ++ e.message)
  exit 1

/-- Creates a file of settings. -/
def createSettings (options : CreateOptions) : Session Unit := do
  let around := (← get).around
  let path := options.target.getD (Settings.defaultSource around)
  let place ← orFault .path (path.resolve around)
  let present ← orFault .file ((← get).tree.has place)
  if present && !options.force then
    error ("Config file already exists: " ++ place.text)
    hint "Use --force to overwrite"
    exit 1
  let (tree, problem) := (← get).tree.makeDirectories place.dropLast
  setTree tree
  if let some e := problem then failCreate e
  match tree.write place ((Utf8.encode Settings.template).getD []) with
  | .error e => failCreate e
  | .ok tree =>
    setTree tree
    success ("Created config file: " ++ place.text)
    info "Edit db_path in the store section to point at your document store."

end Commands

/-- Carries out what a command line asks for. -/
def Action.perform [Limits] [Engine] (context : Context) : Action → Session Unit
  | .check given => Commands.checkQuery context given
  | .query options => Commands.searchStore context options
  | .load snapshot => Commands.load context snapshot
  | .create options => Commands.createSettings options

end ContentQuery.CommandLine
