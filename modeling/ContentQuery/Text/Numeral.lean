import ContentQuery.Text.Blank
import ContentQuery.Text.Ranges

/-!
# ContentQuery.Text.Numeral

The decimal digits of every script, by the Unicode standard, version 14, and integers that a user
writes with them.
-/

namespace ContentQuery

namespace Numeral

/-- Code points that are decimal digits. -/
def digits : Ranges :=
  [(0x30, 0x39), (0x660, 0x669), (0x6F0, 0x6F9), (0x7C0, 0x7C9), (0x966, 0x96F), (0x9E6, 0x9EF),
   (0xA66, 0xA6F), (0xAE6, 0xAEF), (0xB66, 0xB6F), (0xBE6, 0xBEF), (0xC66, 0xC6F),
   (0xCE6, 0xCEF), (0xD66, 0xD6F), (0xDE6, 0xDEF), (0xE50, 0xE59), (0xED0, 0xED9),
   (0xF20, 0xF29), (0x1040, 0x1049), (0x1090, 0x1099), (0x17E0, 0x17E9), (0x1810, 0x1819),
   (0x1946, 0x194F), (0x19D0, 0x19D9), (0x1A80, 0x1A89), (0x1A90, 0x1A99), (0x1B50, 0x1B59),
   (0x1BB0, 0x1BB9), (0x1C40, 0x1C49), (0x1C50, 0x1C59), (0xA620, 0xA629), (0xA8D0, 0xA8D9),
   (0xA900, 0xA909), (0xA9D0, 0xA9D9), (0xA9F0, 0xA9F9), (0xAA50, 0xAA59), (0xABF0, 0xABF9),
   (0xFF10, 0xFF19), (0x104A0, 0x104A9), (0x10D30, 0x10D39), (0x11066, 0x1106F),
   (0x110F0, 0x110F9), (0x11136, 0x1113F), (0x111D0, 0x111D9), (0x112F0, 0x112F9),
   (0x11450, 0x11459), (0x114D0, 0x114D9), (0x11650, 0x11659), (0x116C0, 0x116C9),
   (0x11730, 0x11739), (0x118E0, 0x118E9), (0x11950, 0x11959), (0x11C50, 0x11C59),
   (0x11D50, 0x11D59), (0x11DA0, 0x11DA9), (0x16A60, 0x16A69), (0x16AC0, 0x16AC9),
   (0x16B50, 0x16B59), (0x1D7CE, 0x1D7FF), (0x1E140, 0x1E149), (0x1E2F0, 0x1E2F9),
   (0x1E950, 0x1E959), (0x1FBF0, 0x1FBF9)]

/-- The value of a decimal digit. Every interval of the table is made of whole rows of
ten digits. -/
def digit? (c : CodePoint) : Option Nat :=
  (digits.find? fun range => range.1 ≤ c.val && c.val ≤ range.2).map fun range =>
    (c.val - range.1) % 10

/-- The values of the digits of a run. A single underscore may stand between two digits;
`afterDigit` tells whether a digit has just been read. -/
def digitsOf? : (afterDigit : Bool) → Text → Option (List Nat)
  | afterDigit, [] => if afterDigit then some [] else none
  | afterDigit, c :: rest =>
    if c = '_' then (if afterDigit then digitsOf? false rest else none)
    else match digit? c with
      | some d => (digitsOf? true rest).map (d :: ·)
      | none => none

/-- The most digits of an integer that is read. -/
def maxDigits : Nat := 4300

/-- The number that a run of digits denotes, unless there are too many of them. -/
def natural? (s : Text) : Option Nat :=
  match digitsOf? false s with
  | some values =>
    if values.length ≤ maxDigits then some (values.foldl (fun n d => 10 * n + d) 0) else none
  | none => none

/-- White space around a numeral. The information separators of ASCII are not taken for it. -/
def isMargin (c : CodePoint) : Bool := c.isBlank && !(0x1C ≤ c.val && c.val ≤ 0x1F)

/-- A text without the white space around it. -/
def withoutMargins (s : Text) : Text :=
  ((s.dropWhile isMargin).reverse.dropWhile isMargin).reverse

/-- Reads an integer: digits, optionally after a sign, and white space around them. -/
def integer? (s : Text) : Option Int :=
  match withoutMargins s with
  | [] => none
  | c :: rest =>
    if c = '-' then (natural? rest).map fun n => -(n : Int)
    else if c = '+' then (natural? rest).map fun n => (n : Int)
    else (natural? (c :: rest)).map fun n => (n : Int)

/-! ## Real numbers -/

/-- Whether a text is a run of digits. -/
def isRun (s : Text) : Bool := (digitsOf? false s).isSome

/-- A text without the sign at its front. -/
def withoutSign : Text → Text
  | [] => []
  | c :: rest => if c = '+' || c = '-' then rest else c :: rest

/-- Whether a code point separates an exponent. -/
def isExponentMark (c : CodePoint) : Bool := c = 'e' || c = 'E'

/-- Whether a text is a run of digits, which may have a point before, in or after it. -/
def isPointed (s : Text) : Bool :=
  match Text.splitOn '.' s with
  | [whole] => isRun whole
  | [[], fraction] => isRun fraction
  | [whole, []] => isRun whole
  | [whole, fraction] => isRun whole && isRun fraction
  | _ => false

/-- The words for what is no finite number. -/
def infiniteWords : List Text := ["inf", "infinity", "nan"]

/-- Whether a text is a real number, optionally with a sign and an exponent and with white space
around it, or the word for what is no finite number, in any letter case. -/
def isReal (s : Text) : Bool :=
  let unsigned := withoutSign (withoutMargins s)
  infiniteWords.contains (unsigned.map CodePoint.lowerLetter)
    || isPointed (unsigned.takeWhile fun c => !isExponentMark c)
      && match unsigned.dropWhile fun c => !isExponentMark c with
        | [] => true
        | _ :: exponent => isRun (withoutSign exponent)

end Numeral

end ContentQuery
