import ContentQuery.Binary64
import ContentQuery.Terminal.Wrapping

/-!
# ContentQuery.Terminal.Table

Tables with a header, drawn with lines around the cells.

A column is as wide as its widest cell, with a space on both sides. If the table is too wide,
columns that may be wrapped give way first, the widest before the others; then all columns do.
-/

namespace ContentQuery.Terminal

/-- A column of a table. -/
structure Column where
  title : Text
  /-- Whether cells end at the right edge. -/
  right : Bool
  /-- Whether cells are broken into lines. -/
  wraps : Bool

/-- A table: its columns, and rows with a cell for each of them. -/
structure Table where
  columns : List Column
  rows : List (List Text)

namespace Table

/-! ## Widths -/

/-- Whether a code point ends a line when the width of a cell is measured. -/
def endsLine (c : CodePoint) : Bool :=
  (0x0A ≤ c.val && c.val ≤ 0x0D) || (0x1C ≤ c.val && c.val ≤ 0x1E) || c.val = 0x85 ||
    c.val = 0x2028 || c.val = 0x2029

/-- The width of the widest line. -/
def naturalWidth (s : Text) : Nat :=
  ((s.splitOnP endsLine).map width).foldl max 0

/-- The space on both sides of a cell. -/
def padding : Nat := 2

/-- The width of a cell with its padding, within a bound. -/
def cellWidth (bound : Nat) (s : Text) : Nat :=
  if bound ≤ padding then bound else min (naturalWidth s + padding) bound

/-- The width of a column, within a bound. -/
def columnWidth (bound : Nat) (cells : List Text) : Nat :=
  (cells.map (cellWidth bound)).foldl max 0

/-- Takes a total off values: each value whose share is one gives an equal part of what is left, but
not more than its maximum. -/
def reduce (total : Nat) : (shares : List (Bool × Nat × Nat)) → List Nat
  | [] => []
  | (takes, most, value) :: rest =>
    if takes && 0 < most then
      let count := 1 + (rest.filter fun share => share.1 && 0 < share.2.1).length
      let part := min most (Binary64.roundHalfEven total count)
      (value - part) :: reduce (total - part) rest
    else value :: reduce total rest

/-- The width of columns together. -/
def totalWidth (widths : List Nat) : Nat := widths.foldr (· + ·) 0

/-- Takes off what the columns that may be wrapped are too wide together, from the widest of them
down to the next one; `limit` bounds the number of steps. -/
def collapse (bound : Nat) (wraps : List Bool) : (limit : Nat) → List Nat → List Nat
  | 0, widths => widths
  | limit + 1, widths =>
    let excess := totalWidth widths - bound
    let flexible := (wraps.zip widths).filterMap fun (wraps, w) => if wraps then some w else none
    let widest := flexible.foldl max 0
    let second := (flexible.filter (· ≠ widest)).foldl max 0
    if excess = 0 || flexible.isEmpty || widest = second then widths
    else
      let most := min excess (widest - second)
      let shares := (wraps.zip widths).map fun (wraps, w) => (wraps && w = widest, most, w)
      collapse bound wraps limit (reduce excess shares)

/-- The cells of each column, its title first. -/
def cellsByColumn (table : Table) : List (List Text) :=
  (table.columns.zipIdx).map fun (column, i) =>
    column.title :: table.rows.map fun row => row.getD i []

/-- The widths of the columns of a table that may be `bound` wide without its lines. -/
def widths (table : Table) (bound : Nat) : List Nat :=
  let cells := table.cellsByColumn
  let natural := cells.map (columnWidth bound)
  if totalWidth natural ≤ bound then natural
  else
    let collapsed := collapse bound (table.columns.map (·.wraps)) (totalWidth natural) natural
    let narrow :=
      if totalWidth collapsed ≤ bound then collapsed
      else reduce (totalWidth collapsed - bound) (collapsed.map fun w => (true, w, w))
    (narrow.zip cells).map fun (w, cells) => columnWidth w cells

/-! ## Drawing -/

/-- A line of a cell with the space on both sides of it. A line that cannot be cut to its width
takes the space on its right, too. -/
def pad (columns : Nat) (line : Text) : Text :=
  let line := setTo (columns - padding) line
  if width line ≤ columns - padding then spaces 1 ++ line ++ spaces 1
  else spaces 1 ++ setTo (columns - 1) line

/-- The lines of a cell, as wide as its column. -/
def drawCell (column : Column) (columns : Nat) (s : Text) : List Text :=
  if columns ≤ padding then []
  else
    let alignment := if column.right then Alignment.right else .left
    (layOut ⟨.ellipsis, column.wraps, alignment⟩ (columns - padding) s).map (pad columns)

/-- The lines of a row, with a rule before, between and after its cells. -/
def drawRow (table : Table) (widths : List Nat) (rule : Text) (row : List Text) : List Text :=
  let cells := (table.columns.zip (widths.zip row)).map fun (column, w, s) => drawCell column w s
  let height := (cells.map List.length).foldl max 1
  (List.range height).map fun i =>
    rule ++ Text.joinWith rule ((cells.zip widths).map fun (lines, w) => lines.getD i (spaces w))
      ++ rule

/-- A line across the table: its left end, its stroke, its crossings and its right end. -/
structure Border where
  left : Text
  stroke : CodePoint
  crossing : Text
  right : Text

/-- The line above the header. -/
def Border.top : Border := ⟨"┏", '━', "┳", "┓"⟩

/-- The line below the header. -/
def Border.head : Border := ⟨"┡", '━', "╇", "┩"⟩

/-- The line below the rows. -/
def Border.bottom : Border := ⟨"└", '─', "┴", "┘"⟩

/-- A line across columns of the given widths. -/
def Border.draw (border : Border) (widths : List Nat) : Text :=
  border.left
    ++ Text.joinWith border.crossing (widths.map fun w => List.replicate w border.stroke)
    ++ border.right

/-- The lines of a table on a terminal of the given width. -/
def draw (table : Table) (columns : Nat) : List Text :=
  let widths := table.widths (columns - (table.columns.length + 1))
  let lines := [Border.top.draw widths]
    ++ table.drawRow widths "┃" (table.columns.map (·.title))
    ++ [Border.head.draw widths]
    ++ table.rows.flatMap (table.drawRow widths "│")
    ++ [Border.bottom.draw widths]
  lines.map fun line => if width line ≤ columns then line else setTo columns line

end Table

end ContentQuery.Terminal
