import ContentQuery.Json

/-!
# ContentQuery.Toml

TOML documents: their values, and the tables that a document is built up from, statement by
statement.

While a document is being read, a table remembers how it came about, because that decides what may
still be added to it: a table that a header has declared cannot be declared again, one that a dotted
key has made can only be extended by dotted keys of the same section, and a value written in one
piece cannot be extended at all.
-/

namespace ContentQuery.Toml

/-- A value of a document. -/
inductive Value where
  | string (value : Text)
  | integer (value : Int)
  | float (value : Binary64)
  | boolean (value : Bool)
  /-- A date, a time of day or both, as it is written. -/
  | moment (source : Text)
  | array (items : List Value)
  | table (fields : List (Text × Value))

/-- How a table came about. -/
inductive Origin where
  /-- On the way to a table that a header declares. -/
  | implied
  /-- By a dotted key of the section that is being read. -/
  | dotted
  /-- By its own header, or by a dotted key of a section that has ended. -/
  | declared
  deriving DecidableEq

/-- What stands under a key while a document is being read. -/
inductive Node where
  | value (value : Value)
  | table (origin : Origin) (fields : List (Text × Node))
  /-- An array of tables; only the last one can be extended. -/
  | tables (earlier : List (List (Text × Node))) (last : List (Text × Node))

/-- The entries of a table while a document is being read. -/
abbrev Entries := List (Text × Node)

/-! ## Building a document -/

/-- Puts a value under a dotted key of a section. The tables on the way are made if they are
missing; those that are there must have been left open for dotted keys, and nothing may stand under
the last name. -/
def insert (key : Text) : List Text → Value → Entries → Option Entries
  | [], v, entries =>
    match fieldOf? entries key with
    | none => some (setField entries key (.value v))
    | some _ => none
  | next :: names, v, entries =>
    match fieldOf? entries key with
    | none => do
      let inner ← insert next names v []
      return setField entries key (.table .dotted inner)
    | some (.table .declared _) => none
    | some (.table _ inner) => do
      let inner ← insert next names v inner
      return setField entries key (.table .dotted inner)
    | some _ => none

/-- Changes the entries of the table that a header leads to: below arrays of tables it is the last
table. -/
def modifyAt (change : Entries → Option Entries) : List Text → Entries → Option Entries
  | [], entries => change entries
  | key :: names, entries =>
    match fieldOf? entries key with
    | some (.table origin inner) => do
      let inner ← modifyAt change names inner
      return setField entries key (.table origin inner)
    | some (.tables earlier last) => do
      let last ← modifyAt change names last
      return setField entries key (.tables earlier last)
    | _ => none

/-- Goes along the names of a header, making the tables that are missing, and changes what stands
under the last of them. -/
def declare (change : Option Node → Option Node) (key : Text) : List Text → Entries → Option Entries
  | [], entries => do
    let node ← change (fieldOf? entries key)
    return setField entries key node
  | next :: names, entries =>
    match fieldOf? entries key with
    | none => do
      let inner ← declare change next names []
      return setField entries key (.table .implied inner)
    | some (.table origin inner) => do
      let inner ← declare change next names inner
      return setField entries key (.table origin inner)
    | some (.tables earlier last) => do
      let last ← declare change next names last
      return setField entries key (.tables earlier last)
    | some (.value _) => none

/-- The header of a table: it must not have been declared. -/
def declareTable : Option Node → Option Node
  | none => some (.table .declared [])
  | some (.table .implied inner) => some (.table .declared inner)
  | some _ => none

/-- The header of one more table in an array of tables. -/
def declareElement : Option Node → Option Node
  | none => some (.tables [] [])
  | some (.tables earlier last) => some (.tables (earlier ++ [last]) [])
  | some _ => none

/-! ## The end of a section -/

/-- What a table counts as after the section in which it was made. -/
def Origin.closed : Origin → Origin
  | dotted => declared
  | origin => origin

mutual

/-- A node after the end of a section. -/
def Node.closed : Node → Node
  | .value v => .value v
  | .table origin fields => .table origin.closed (closedEntries fields)
  | .tables earlier last => .tables earlier (closedEntries last)

/-- The entries of a table after the end of a section. -/
def closedEntries : Entries → Entries
  | [] => []
  | (key, node) :: rest => (key, node.closed) :: closedEntries rest

end

/-! ## The finished document -/

mutual

/-- The value that a node has become. -/
def Node.toValue : Node → Value
  | .value v => v
  | .table _ fields => .table (valuesOf fields)
  | .tables earlier last => .array (tableValues earlier ++ [.table (valuesOf last)])

/-- The values of the entries of a table. -/
def valuesOf : Entries → List (Text × Value)
  | [] => []
  | (key, node) :: rest => (key, node.toValue) :: valuesOf rest

/-- The values of the tables of an array. -/
def tableValues : List Entries → List Value
  | [] => []
  | fields :: rest => .table (valuesOf fields) :: tableValues rest

end

end ContentQuery.Toml
