import ContentQuery.Document
import ContentQuery.QueryError
import ContentQuery.Text.Case

/-!
# ContentQuery.Listing

The order in which documents are listed, and the pages of a listing.
-/

namespace ContentQuery

/-! ## Order -/

/-- The timestamp by which documents are ordered. -/
inductive SortField where
  | created
  | modified
  deriving DecidableEq

/-- From early to late, or from late to early. -/
inductive Direction where
  | ascending
  | descending
  deriving DecidableEq

/-- The word for a sort field. -/
def SortField.word : SortField → Text
  | created => "creation_date"
  | modified => "last_modified_date"

/-- The word for a direction. -/
def Direction.word : Direction → Text
  | ascending => "asc"
  | descending => "desc"

/-- Both sort fields. -/
def SortField.every : List SortField := [created, modified]

/-- Both directions. -/
def Direction.every : List Direction := [ascending, descending]

/-- The sort field that a word stands for, in any letter case. -/
def SortField.ofWord? (s : Text) : Option SortField := every.find? fun f => f.word = s.lower

/-- The direction that a word stands for, in any letter case. -/
def Direction.ofWord? (s : Text) : Option Direction := every.find? fun d => d.word = s.lower

/-- An order of documents. -/
structure Sorting where
  field : SortField
  direction : Direction
  deriving DecidableEq

namespace Sorting

/-- Reads an order. An empty text stands for the creation date and for ascending order. -/
def parse (field direction : Text) : Except BadParameter Sorting := do
  let direction ←
    if direction = [] then pure Direction.ascending
    else match Direction.ofWord? direction with
      | some d => pure d
      | none => throw (BadParameter.order direction)
  let field ←
    if field = [] then pure SortField.created
    else match SortField.ofWord? field with
      | some f => pure f
      | none => throw (BadParameter.sortField field)
  return ⟨field, direction⟩

/-- The timestamp of a document that counts, in microseconds. -/
def key (sorting : Sorting) (d : Document) : Nat :=
  match sorting.field with
  | .created => d.created.micros
  | .modified => d.modified.micros

/-- Whether a document may stand before another one. -/
def allows (sorting : Sorting) (a b : Document) : Bool :=
  match sorting.direction with
  | .ascending => sorting.key a ≤ sorting.key b
  | .descending => sorting.key b ≤ sorting.key a

/-- The documents in order. Where timestamps are equal the documents keep their places, in both
directions. -/
def sort (sorting : Sorting) (documents : List Document) : List Document :=
  documents.mergeSort sorting.allows

/-- Sorts a list of documents in its place, in the order that the words for a sort field and a
direction ask for. The words are read before the list is touched. -/
def rearrange (field direction : Text) : ExceptT BadParameter (StateM (List Document)) Unit := do
  match parse field direction with
  | .error e => throw e
  | .ok sorting => modify sorting.sort

end Sorting

/-! ## Pages -/

/-- The number of documents on a page if none is asked for. -/
def defaultLimit : Int := 20

/-- The most documents on a page. -/
def maxLimit : Int := 100

/-- A page of a listing: its number, from one on, and how many documents pages hold. -/
structure Page where
  number : Nat
  limit : Nat
  number_pos : 0 < number
  limit_pos : 0 < limit
  limit_le : limit ≤ 100

namespace Page

/-- The number of the page that is asked for; what lies below one asks for the first. -/
def effectiveNumber (page : Int) : Nat := if page ≤ 0 then 1 else page.toNat

/-- How many documents pages hold: the default if the number lies below one, and never more than the
bound. -/
def effectiveLimit (limit : Int) : Nat :=
  if limit ≤ 0 then defaultLimit.toNat else min limit maxLimit |>.toNat

/-- The page that is asked for. -/
def ofRequest (page limit : Int) : Page where
  number := effectiveNumber page
  limit := effectiveLimit limit
  number_pos := by unfold effectiveNumber; split <;> omega
  limit_pos := by unfold effectiveLimit defaultLimit maxLimit; split <;> omega
  limit_le := by unfold effectiveLimit defaultLimit maxLimit; split <;> omega

/-- The number of documents on earlier pages. -/
def offset (page : Page) : Nat := (page.number - 1) * page.limit

/-- The documents on a page. -/
def slice {α : Type} (page : Page) (items : List α) : List α :=
  (items.drop page.offset).take page.limit

/-- The documents on the page that is asked for. -/
def paginate {α : Type} (items : List α) (page limit : Int) : List α :=
  (ofRequest page limit).slice items

end Page

end ContentQuery
