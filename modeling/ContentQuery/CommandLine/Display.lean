import ContentQuery.Payload.Preview
import ContentQuery.Query
import ContentQuery.Export
import ContentQuery.Terminal.Markup
import ContentQuery.Terminal.Table

/-!
# ContentQuery.CommandLine.Display

The tables in which conditions and documents are shown to a user, and the lines around them.
-/

namespace ContentQuery.CommandLine.Display

open Terminal (MarkupError)

/-- A text as a cell shows it. -/
def cell (s : Text) : Except MarkupError Text := Terminal.Markup.render (Terminal.Markup.escape s)

/-- The form of a word for one thing, or for several. -/
def counted (n : Nat) (noun : Text) : Text :=
  Text.ofNat n ++ " " ++ if n = 1 then noun else noun ++ "s"

/-- Texts as a list in brackets. -/
def listed (items : List Text) : Text := Text.enclose "[" "]" (items.map Text.quoted)

/-! ## Conditions -/

/-- The columns of a table of conditions. -/
def conditionColumns : List Terminal.Column :=
  [⟨"#", true, true⟩, ⟨"Path", false, true⟩, ⟨"Operator", false, true⟩, ⟨"Value", false, true⟩,
    ⟨"Type", false, true⟩]

/-- A literal as it is shown in a table: strings between quotes. -/
def shownLiteral : Literal → Text
  | .string s => "\"" ++ s ++ "\""
  | literal => literal.display

/-- What is shown in the place of an empty path. -/
def wholeContent : Text := "(content)"

/-- The row of the condition with a number. -/
def conditionRow (number : Nat) (condition : Condition) : Except MarkupError (List Text) := do
  let path ← if condition.path = [] then pure wholeContent else cell condition.path
  return [Text.ofNat number, path, condition.operation.name,
    ← cell (shownLiteral condition.literal), condition.literal.typeName]

/-- A connective in capital letters. -/
def shownConnective : Connective → Text
  | .and => "AND"
  | .or => "OR"

/-- The row of a connective. -/
def connectiveRow (connective : Connective) : List Text :=
  [[], shownConnective connective, [], [], []]

/-- The rows of the conditions from a number on, each after the first with the connective
before it. -/
def conditionRows (number : Nat) : List Condition → List Connective →
    Except MarkupError (List (List Text))
  | [], _ => .ok []
  | condition :: conditions, connectives => do
    let row ← conditionRow number condition
    match connectives with
    | [] => return row :: (← conditionRows (number + 1) conditions [])
    | connective :: connectives =>
      return row :: connectiveRow connective
        :: (← conditionRows (number + 1) conditions connectives)

/-- The table of the conditions of a query. -/
def conditionTable (query : Query) : Except MarkupError Terminal.Table :=
  return ⟨conditionColumns, ← conditionRows 1 query.conditions query.connectives⟩

/-! ## Documents -/

/-- The columns of a table of documents. -/
def documentColumns : List Terminal.Column :=
  [⟨"ID", false, false⟩, ⟨"Owner", false, false⟩, ⟨"Created", false, false⟩,
    ⟨"Modified", false, false⟩, ⟨"Content", false, false⟩]

/-- The width for which tables of documents are drawn, whatever the width of the terminal. -/
def documentTableWidth : Nat := 200

/-- The row of a document, given its preview. -/
def documentRow (d : Document) (preview : Text) : Except MarkupError (List Text) :=
  return [← cell d.id, ← cell d.owner, d.created.brief, d.modified.brief, ← cell preview]

/-- The table of documents with their previews. -/
def documentTable (documents : List (Document × Text)) : Except MarkupError Terminal.Table :=
  return ⟨documentColumns, ← documents.mapM fun (d, preview) => documentRow d preview⟩

/-- The line above a page of documents. -/
def pageHeading (result : SearchResult) : Text :=
  "Documents " ++ Text.ofNat result.first ++ "-" ++ Text.ofNat result.last ++ " of "
    ++ Text.ofNat result.total ++ " (page " ++ Text.ofNat result.page.number ++ ")"

/-- The line in the place of a page without documents. -/
def emptyPage (result : SearchResult) : Text :=
  "No documents found (" ++ Text.ofNat result.total ++ " matches, page "
    ++ Text.ofNat result.page.number ++ ")"

end ContentQuery.CommandLine.Display
