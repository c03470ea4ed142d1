import ContentQuery.Text

/-!
# ContentQuery.Text.Utf8

The UTF-8 form of a text. A text with a surrogate has none, and only shortest forms of code points
that are no surrogates are read, so reading accepts exactly what writing produces.

Where octets have to be shown whatever they are, `decodeMended` reads them all: what is no form of a
code point comes out as the replacement character.
-/

namespace ContentQuery.Utf8

/-- The octets of one code point, written by the pattern for its size. -/
def octets (c : CodePoint) : List UInt8 :=
  let n := c.val
  if n < 0x80 then [n.toUInt8]
  else if n < 0x800 then [(0xC0 + n / 64).toUInt8, (0x80 + n % 64).toUInt8]
  else if n < 0x10000 then
    [(0xE0 + n / 4096).toUInt8, (0x80 + n / 64 % 64).toUInt8, (0x80 + n % 64).toUInt8]
  else
    [(0xF0 + n / 262144).toUInt8, (0x80 + n / 4096 % 64).toUInt8, (0x80 + n / 64 % 64).toUInt8,
      (0x80 + n % 64).toUInt8]

/-- The octets of a text; none if the text has a surrogate. -/
def encode (s : Text) : Option (List UInt8) :=
  if s.any CodePoint.isSurrogate then none else some (s.flatMap octets)

/-- The six bits that a continuation octet carries. -/
def continuation? (b : UInt8) : Option Nat :=
  if 0x80 ≤ b ∧ b ≤ 0xBF then some (b.toNat - 0x80) else none

/-- A code point read from a form for numbers from `least` on; a number below has a shorter form. -/
def scalar? (least n : Nat) : Option CodePoint :=
  if h : n < 0x110000 then
    if least ≤ n ∧ ¬(0xD800 ≤ n ∧ n ≤ 0xDFFF) then some ⟨n, h⟩ else none
  else none

/-- The first code point of a run of octets, with the octets after it. -/
def next? : List UInt8 → Option (CodePoint × List UInt8)
  | [] => none
  | a :: rest =>
    if a < 0x80 then (scalar? 0 a.toNat).map (·, rest)
    else if 0xC0 ≤ a ∧ a ≤ 0xDF then
      match rest with
      | b :: rest => do
        let x ← continuation? b
        (scalar? 0x80 ((a.toNat - 0xC0) * 64 + x)).map (·, rest)
      | [] => none
    else if 0xE0 ≤ a ∧ a ≤ 0xEF then
      match rest with
      | b :: c :: rest => do
        let x ← continuation? b
        let y ← continuation? c
        (scalar? 0x800 ((a.toNat - 0xE0) * 4096 + x * 64 + y)).map (·, rest)
      | _ => none
    else if 0xF0 ≤ a ∧ a ≤ 0xF7 then
      match rest with
      | b :: c :: d :: rest => do
        let x ← continuation? b
        let y ← continuation? c
        let z ← continuation? d
        (scalar? 0x10000 ((a.toNat - 0xF0) * 262144 + x * 4096 + y * 64 + z)).map (·, rest)
      | _ => none
    else none

/-- Reads code points until the octets end; `limit` bounds their number. -/
def decodeUpTo : (limit : Nat) → List UInt8 → Option Text
  | _, [] => some []
  | 0, _ :: _ => none
  | limit + 1, bytes => do
    let (c, rest) ← next? bytes
    (decodeUpTo limit rest).map (c :: ·)

/-- The text that the octets are the form of; none if they are no UTF-8. -/
def decode (bytes : List UInt8) : Option Text := decodeUpTo bytes.length bytes

/-! ## Octets that need not be UTF-8 -/

/-- The character in the place of octets that are the form of none. -/
def replacement : CodePoint := .ofNat 0xFFFD

/-- The octets that can come second after a leading one, from the least to the greatest. They keep
out the longer forms of a code point and the forms of surrogates. -/
def seconds? (lead : UInt8) : Option (UInt8 × UInt8) :=
  if lead < 0xC2 || 0xF4 < lead then none
  else if lead = 0xE0 then some (0xA0, 0xBF)
  else if lead = 0xED then some (0x80, 0x9F)
  else if lead = 0xF0 then some (0x90, 0xBF)
  else if lead = 0xF4 then some (0x80, 0x8F)
  else some (0x80, 0xBF)

/-- The number of octets of the longest beginning that some form has, where no form is complete; one
if the first octet begins none. -/
def brokenLength : List UInt8 → Nat
  | lead :: second :: rest =>
    match seconds? lead with
    | some (least, most) =>
      if least ≤ second && second ≤ most then
        2 + (rest.takeWhile fun b => (continuation? b).isSome).length
      else 1
    | none => 1
  | _ => 1

/-- Reads octets until they end; `limit` bounds the number of steps. -/
def decodeMendedUpTo : (limit : Nat) → List UInt8 → Text
  | 0, _ => []
  | _, [] => []
  | limit + 1, bytes =>
    match next? bytes with
    | some (c, rest) => c :: decodeMendedUpTo limit rest
    | none => replacement :: decodeMendedUpTo limit (bytes.drop (brokenLength bytes))

/-- The text that octets are the form of, with the replacement character in the place of each
longest run that could have begun a form. -/
def decodeMended (bytes : List UInt8) : Text := decodeMendedUpTo bytes.length bytes

end ContentQuery.Utf8
