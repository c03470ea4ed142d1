import ContentQuery.Terminal.Width
import ContentQuery.Text.Blank

/-!
# ContentQuery.Terminal.Wrapping

Breaking texts into lines of a given width.

Lines are broken between words, and a word keeps the white space after it. What happens to a word
that is too long for any line depends on how overflow is treated.
-/

namespace ContentQuery.Terminal

/-- What happens to what does not fit into a line. -/
inductive Overflow where
  /-- It goes on in the next line. -/
  | fold
  /-- It is cut off and an ellipsis put in its place. -/
  | ellipsis
  deriving DecidableEq

/-! ## Words -/

/-- The first word of a text with the white space around it, and what follows. -/
def splitChunk (s : Text) : Text × Text :=
  let inked := s.dropWhile CodePoint.isBlank
  let after := inked.dropWhile CodePoint.isInk
  (s.takeWhile CodePoint.isBlank ++ inked.takeWhile CodePoint.isInk
    ++ after.takeWhile CodePoint.isBlank, after.dropWhile CodePoint.isBlank)

/-- The words of a text, each with the white space after it; `limit` bounds their number. -/
def chunksUpTo : (limit : Nat) → Text → List Text
  | 0, _ => []
  | limit + 1, s =>
    if s.all CodePoint.isBlank then []
    else
      let (chunk, rest) := splitChunk s
      chunk :: chunksUpTo limit rest

/-- The words of a text, each with the white space after it, the first one also with the white space
before it. A text without any ink has no words. -/
def chunks (s : Text) : List Text := chunksUpTo s.length s

/-- Glyphs put into pieces that fit into the given columns; `piece` is the current piece and `used`
the number of columns it takes. A last piece that takes no column is left out. -/
def chopGlyphs (columns : Nat) (piece : Text) (used : Nat) : List Glyph → List Text
  | [] => if used = 0 then [] else [piece]
  | g :: rest =>
    if columns < used + g.columns then piece :: chopGlyphs columns g.text g.columns rest
    else chopGlyphs columns (piece ++ g.text) (used + g.columns) rest

/-- A text cut into pieces that fit into the given columns. -/
def chop (columns : Nat) (s : Text) : List Text := chopGlyphs columns [] 0 (glyphs s)

/-! ## Lines -/

/-- The lines before a new one: the current line, unless it is empty. -/
def flush (line : Text) (lines : List Text) : List Text :=
  if line = [] then lines else line :: lines

/-- All texts but the last one, and the last one. -/
def splitLast (line : Text) : List Text → List Text × Text
  | [] => ([], line)
  | next :: rest =>
    let (earlier, last) := splitLast next rest
    (line :: earlier, last)

/-- Puts words into lines; `line` is the current line and `used` the number of columns it takes. -/
def fill (overflow : Overflow) (columns : Nat) (line : Text) (used : Nat) : List Text → List Text
  | [] => [line]
  | word :: rest =>
    let ink := width word.trimRight
    if used + ink ≤ columns then fill overflow columns (line ++ word) (used + width word) rest
    else if columns < ink && overflow = .fold then
      match chop columns word with
      | [] => flush line (fill overflow columns [] 0 rest)
      | piece :: pieces =>
        let (earlier, last) := splitLast piece pieces
        flush line (earlier ++ fill overflow columns last (width last) rest)
    else flush line (fill overflow columns word (width word) rest)

/-- The lines of a text without line ends. -/
def breakLine (overflow : Overflow) (columns : Nat) (s : Text) : List Text :=
  match chunks s with
  | [] => [s]
  | words => fill overflow columns [] 0 words

/-- The number of columns from one stop of tabs to the next. -/
def tabColumns : Nat := 8

/-- The pieces between the tabs of a text, with spaces up to the next stop in the place of each tab,
one at least. -/
def expandTabs (column : Nat) : List Text → Text
  | [] => []
  | [piece] => piece
  | piece :: next :: rest =>
    let piece := piece ++ spaces 1
    let reached := column + width piece
    let more := (tabColumns - reached % tabColumns) % tabColumns
    piece ++ spaces more ++ expandTabs (reached + more) (next :: rest)

/-- Drops white space at the end of a line that is too long, as much as it is too long. -/
def dropExcess (columns : Nat) (s : Text) : Text :=
  let blanks := (s.reverse.takeWhile CodePoint.isBlank).length
  s.take (s.length - min blanks (s.length - columns))

/-- A line that fits into the given columns. -/
def fit (overflow : Overflow) (columns : Nat) (s : Text) : Text :=
  match overflow with
  | .ellipsis => ellipsize columns s
  | .fold => if width s ≤ columns then s else setTo columns s

/-- Where lines stand in their columns. -/
inductive Alignment where
  /-- Lines are as wide as they come. -/
  | none
  /-- At the left edge, with spaces up to the right edge. -/
  | left
  /-- At the right edge, without white space at the end. -/
  | right
  deriving DecidableEq

/-- A line moved to where it is to stand. -/
def Alignment.move (alignment : Alignment) (overflow : Overflow) (columns : Nat) (s : Text) :
    Text :=
  match alignment with
  | .none => s
  | .left => if width s < columns then padTo columns s else fit overflow columns s
  | .right =>
    let line := fit overflow columns s.trimRight
    spaces (columns - width line) ++ line

/-- How a text is laid out. -/
structure Layout where
  overflow : Overflow
  /-- Whether lines are broken between words. -/
  wraps : Bool
  alignment : Alignment

/-- The layout of messages. -/
def Layout.message : Layout := ⟨.fold, true, .none⟩

/-- The lines of a text in the given columns. -/
def layOut (layout : Layout) (columns : Nat) (s : Text) : List Text :=
  (Text.splitOn '\n' s).flatMap fun line =>
    let line := expandTabs 0 (Text.splitOn '\t' line)
    let lines :=
      if layout.wraps then (breakLine layout.overflow columns line).map (dropExcess columns)
      else [line]
    lines.map fun line =>
      fit layout.overflow columns (layout.alignment.move layout.overflow columns line)

end ContentQuery.Terminal
