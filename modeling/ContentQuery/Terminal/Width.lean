import ContentQuery.Terminal.Width.Table
import ContentQuery.Text

/-!
# ContentQuery.Terminal.Width

The width of texts in columns of a terminal, and cutting texts to a width.
-/

namespace ContentQuery.Terminal

/-- The number of columns of a code point on its own. -/
def columnsOf (c : CodePoint) : Nat :=
  if 0x20 ≤ c.val && c.val < 0x7F then 1
  else if zeroWidth.has c.val then 0
  else if doubleWidth.has c.val then 2
  else 1

/-- The joiner that makes one picture of two. -/
def joiner : CodePoint := .ofNat 0x200D

/-- The selector for the picture form of the code point before it. -/
def pictureForm : CodePoint := .ofNat 0xFE0F

/-- The number of columns of a text after the code point `last`. What a joiner joins takes no
columns, and the selector for the picture form may widen the code point before it. -/
def widthAfter (last : Option CodePoint) : Text → Nat
  | [] => 0
  | c :: rest =>
    if c = joiner then
      match rest with
      | [] => 0
      | _ :: rest => widthAfter last rest
    else if c = pictureForm then
      match last with
      | some d => (if widenedByPicture.has d.val then 1 else 0) + widthAfter none rest
      | none => widthAfter none rest
    else if columnsOf c = 0 then widthAfter last rest
    else columnsOf c + widthAfter (some c) rest

/-- The number of columns of a text. -/
def width (s : Text) : Nat := widthAfter none s

/-! ## Glyphs -/

/-- Code points that are shown in one place and never cut apart. -/
structure Glyph where
  text : Text
  /-- The number of columns of the place. -/
  columns : Nat

namespace Glyph

/-- A glyph with one more code point that takes no column. -/
def push (g : Glyph) (c : CodePoint) : Glyph := ⟨g.text ++ [c], g.columns⟩

/-- A glyph that is one column wider. -/
def widened (g : Glyph) : Glyph := ⟨g.text, g.columns + 1⟩

/-- The glyphs of a text from the glyph `g` on, which may go on in the text. `last` is the code
point that the selector for the picture form may widen. -/
def split (last : Option CodePoint) (g : Glyph) : Text → List Glyph
  | [] => [g]
  | c :: rest =>
    if c = joiner then
      match rest with
      | [] => [g.push c]
      | next :: rest => split last ((g.push c).push next) rest
    else if c = pictureForm && last.any fun d => widenedByPicture.has d.val then
      split none (g.push c).widened rest
    else if columnsOf c = 0 then split last (g.push c) rest
    else g :: split (some c) ⟨[c], columnsOf c⟩ rest

end Glyph

/-- The glyphs of a text. Code points without a column belong to the glyph before them, those at the
front make a glyph of their own. -/
def glyphs : Text → List Glyph
  | [] => []
  | c :: rest =>
    Glyph.split (if columnsOf c = 0 then none else some c) ⟨[c], columnsOf c⟩ rest

/-! ## Fitting texts into columns -/

/-- Spaces. -/
def spaces (n : Nat) : Text := List.replicate n (' ' : CodePoint)

/-- The text with spaces after it up to a width. -/
def padTo (columns : Nat) (s : Text) : Text := s ++ spaces (columns - width s)

/-- The glyphs that fit into the given columns. Where a glyph of two columns would stand half
outside there is a space. -/
def takeColumns : (columns : Nat) → List Glyph → Text
  | _, [] => []
  | columns, g :: rest =>
    if g.columns ≤ columns then g.text ++ takeColumns (columns - g.columns) rest
    else spaces columns

/-- The text in the given columns: cut, or with spaces after it. -/
def setTo (columns : Nat) (s : Text) : Text :=
  if columns = 0 then []
  else if width s ≤ columns then padTo columns s
  else takeColumns columns (glyphs s)

/-- The text itself if it fits into the given columns, and otherwise its beginning with
an ellipsis. -/
def ellipsize (columns : Nat) (s : Text) : Text :=
  if width s ≤ columns then s else setTo (columns - 1) s ++ "…"

end ContentQuery.Terminal
