import ContentQuery.Text

/-!
# ContentQuery.Text.Blank

White space and the words between it.

White space is the set that the Unicode standard calls so, with the four information separators of
ASCII. Zero-width spaces and the byte order mark are no white space: they are part of a word.
-/

namespace ContentQuery

/-- White space: the characters at which a text is trimmed and cut into words. -/
def CodePoint.isBlank (c : CodePoint) : Bool :=
  let n := c.val
  n = 0x20 || (0x09 ≤ n && n ≤ 0x0D) || (0x1C ≤ n && n ≤ 0x1F) ||
    (0x80 ≤ n && (n = 0x85 || n = 0xA0 || n = 0x1680 || (0x2000 ≤ n && n ≤ 0x200A) ||
      n = 0x2028 || n = 0x2029 || n = 0x202F || n = 0x205F || n = 0x3000))

/-- A code point that can stand in a word. -/
def CodePoint.isInk (c : CodePoint) : Bool := !c.isBlank

/-- Every character that is white space in ASCII is white space here. -/
theorem CodePoint.isBlank_of_isWhitespace {c : Char} (h : c.isWhitespace = true) :
    (CodePoint.ofChar c).isBlank = true := by
  simp only [Char.isWhitespace, Bool.or_eq_true, decide_eq_true_eq] at h
  rcases h with ((h | h) | h) | h <;> subst h <;> decide

namespace Text

/-- The text without the white space it begins with. -/
def trimLeft (s : Text) : Text := s.dropWhile CodePoint.isBlank

/-- The text without the white space it ends with. -/
def trimRight (s : Text) : Text := (s.reverse.dropWhile CodePoint.isBlank).reverse

/-- The text without the white space at its two ends. -/
def trim (s : Text) : Text := trimRight (trimLeft s)

/-- The longest run without white space that the text begins with. -/
def firstWord (s : Text) : Text := s.takeWhile CodePoint.isInk

/-- What follows the first word and the white space after it. -/
def afterWord (s : Text) : Text := trimLeft (s.dropWhile CodePoint.isInk)

/-- The maximal runs without white space, in order. -/
def words : Text → List Text
  | [] => []
  | c :: rest =>
    if c.isBlank then words rest
    else match rest with
      | [] => [[c]]
      | next :: _ =>
        if next.isBlank then [c] :: words rest
        else match words rest with
          | [] => [[c]]
          | word :: others => (c :: word) :: others

/-- The words with one space between neighbours, and nothing at the ends. -/
def collapse (s : Text) : Text := joinWith [' '] (words s)

end Text

end ContentQuery
