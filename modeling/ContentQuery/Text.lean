/-!
# ContentQuery.Text

Texts as sequences of code points, with the cuts, searches and joins that conditions, paths and
messages are built from.

A text is a plain list, so every law of `List` applies to it: "starts with" is the prefix relation,
"contains" the infix relation, and concatenation is `++`.
-/

namespace ContentQuery

/-- A Unicode code point. Surrogates are included, because an escape in JSON text can name one on
its own; such a text has no UTF-8 form but is compared and shown like any other. -/
abbrev CodePoint := Fin 0x110000

/-- A sequence of code points. -/
abbrev Text := List CodePoint

namespace CodePoint

/-- Every character is a code point. -/
def ofChar (c : Char) : CodePoint :=
  ⟨c.toNat, by
    have h : c.toNat < 0xD800 ∨ (0xDFFF < c.toNat ∧ c.toNat < 0x110000) := c.valid
    omega⟩

instance : Coe Char CodePoint := ⟨ofChar⟩

/-- The code point with a number; the replacement character if no code point has it. -/
def ofNat (n : Nat) : CodePoint := if h : n < 0x110000 then ⟨n, h⟩ else ⟨0xFFFD, by decide⟩

/-- Halves of a pair that names one code point beyond the basic plane. -/
def isHighSurrogate (c : CodePoint) : Bool := 0xD800 ≤ c.val && c.val ≤ 0xDBFF

@[inherit_doc isHighSurrogate]
def isLowSurrogate (c : CodePoint) : Bool := 0xDC00 ≤ c.val && c.val ≤ 0xDFFF

/-- A surrogate is no character: it has no UTF-8 form. -/
def isSurrogate (c : CodePoint) : Bool := 0xD800 ≤ c.val && c.val ≤ 0xDFFF

/-- The ten ASCII digits, the only ones that numerals and indices are written with. -/
def isDigit (c : CodePoint) : Bool := '0' ≤ c && c ≤ '9'

/-- The letters of ASCII. -/
def isLetter (c : CodePoint) : Bool := ('a' ≤ c && c ≤ 'z') || ('A' ≤ c && c ≤ 'Z')

/-- A letter of ASCII in lower case. Every other code point stays. -/
def lowerLetter (c : CodePoint) : CodePoint :=
  if 'A' ≤ c && c ≤ 'Z' then .ofNat (c.val + 32) else c

/-- The value of an ASCII digit. -/
def digit (c : CodePoint) : Nat := c.val - 48

/-- The value of a digit of base sixteen, in either letter case. -/
def hexDigit? (c : CodePoint) : Option Nat :=
  if c.isDigit then some c.digit
  else if 'a' ≤ c && c ≤ 'f' then some (c.val - 87)
  else if 'A' ≤ c && c ≤ 'F' then some (c.val - 55)
  else none

end CodePoint

namespace Text

/-- The code points of a string of characters. -/
def ofString (s : String) : Text := s.toList.map CodePoint.ofChar

instance : Coe String Text := ⟨ofString⟩

/-- The decimal digits of a natural number. -/
def ofNat (n : Nat) : Text := (Nat.toDigits 10 n).map CodePoint.ofChar

/-- The decimal digits of an integer, after a minus sign if it is negative. -/
def ofInt : Int → Text
  | .ofNat n => ofNat n
  | .negSucc n => '-' :: ofNat (n + 1)

/-- Left-padded with `fill` to at least `width` code points. -/
def padLeft (width : Nat) (fill : CodePoint) (s : Text) : Text :=
  List.replicate (width - s.length) fill ++ s

/-- Right-padded with `fill` to at least `width` code points. -/
def padRight (width : Nat) (fill : CodePoint) (s : Text) : Text :=
  s ++ List.replicate (width - s.length) fill

/-- The digits of `n`, with zeros in front up to `width`. -/
def ofNatPadded (width n : Nat) : Text := padLeft width '0' (ofNat n)

/-- The digits of `n` in base sixteen, lower case, with zeros in front up to `width`. -/
def ofNatHex (width n : Nat) : Text :=
  padLeft width '0' ((Nat.toDigits 16 n).map CodePoint.ofChar)

/-- The number that a run of decimal digits denotes. -/
def digitsValue (ds : Text) : Nat := ds.foldl (fun n d => 10 * n + d.digit) 0

/-- Whether `part` occurs in the text as a contiguous block. -/
def occursIn (part : Text) : Text → Bool
  | [] => part.isEmpty
  | c :: rest => part.isPrefixOf (c :: rest) || occursIn part rest

theorem occursIn_iff {part s : Text} : occursIn part s = true ↔ part <:+: s := by
  induction s with
  | nil => simp [occursIn]
  | cons c rest ih => simp [occursIn, ih, List.infix_cons_iff]

/-- The parts with `separator` between neighbours. -/
def joinWith (separator : Text) : List Text → Text
  | [] => []
  | [part] => part
  | part :: next :: rest => part ++ separator ++ joinWith separator (next :: rest)

/-- The pieces between the occurrences of one code point; a text without any is one piece. -/
def splitOn (mark : CodePoint) : Text → List Text
  | [] => [[]]
  | c :: rest =>
    if c = mark then [] :: splitOn mark rest
    else match splitOn mark rest with
      | piece :: pieces => (c :: piece) :: pieces
      | [] => [[c]]

theorem splitOn_ne_nil (mark : CodePoint) (s : Text) : splitOn mark s ≠ [] := by
  cases s with
  | nil => simp [splitOn]
  | cons c rest =>
    by_cases h : c = mark
    · simp [splitOn, h]
    · simp only [splitOn, h, if_false]
      split <;> simp

/-- Cutting at a mark loses nothing but the marks. -/
theorem joinWith_splitOn (mark : CodePoint) (s : Text) :
    joinWith [mark] (splitOn mark s) = s := by
  induction s with
  | nil => rfl
  | cons c rest ih =>
    by_cases h : c = mark
    · subst h
      simp only [splitOn, if_true]
      cases hs : splitOn c rest with
      | nil => exact absurd hs (splitOn_ne_nil c rest)
      | cons piece pieces => simp [joinWith, ← hs, ih]
    · simp only [splitOn, h, if_false]
      cases hs : splitOn mark rest with
      | nil => exact absurd hs (splitOn_ne_nil mark rest)
      | cons piece pieces =>
        rw [hs] at ih
        cases pieces with
        | nil => simpa [joinWith] using ih
        | cons next pieces => simpa [joinWith] using ih

/-- The order of texts: by code point, a proper prefix first. -/
def precedes : Text → Text → Bool
  | _, [] => false
  | [], _ :: _ => true
  | a :: as, b :: bs => a < b || (a = b && precedes as bs)

end Text

end ContentQuery
