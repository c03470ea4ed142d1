import ContentQuery.Literal
import ContentQuery.Proofs.ConnectiveWord
import ContentQuery.Proofs.Digits

/-!
# ContentQuery.Proofs.WrittenLiteral

Literals as they are written on a line: the names of null and the truth values, numerals without
exponent, and strings in double quotes, whatever stands in them. Each is read as what it stands for.
-/

namespace ContentQuery

open Expression

/-! ## Numerals -/

/-- A numeral: an optional minus sign, digits, and optionally a point and more digits. -/
structure WrittenNumeral where
  negative : Bool
  whole : Text
  fraction : Option Text
  isDigits_whole : Decimal.isDigits whole = true
  isDigits_fraction : ∀ digits ∈ fraction, Decimal.isDigits digits = true

namespace WrittenNumeral

/-- The point and the digits after it. -/
def fractionText : Option Text → Text
  | none => []
  | some digits => '.' :: digits

/-- The numeral without its sign. -/
def unsigned (n : WrittenNumeral) : Text := n.whole ++ fractionText n.fraction

def text (n : WrittenNumeral) : Text := if n.negative then '-' :: n.unsigned else n.unsigned

/-- The number that a numeral denotes: all its digits, lowered by the places after the point. -/
def decimal (n : WrittenNumeral) : Decimal where
  negative := n.negative
  coefficient := Text.digitsValue (n.whole ++ n.fraction.getD [])
  exponent := -(n.fraction.getD []).length

theorem isDigits_iff {s : Text} :
    Decimal.isDigits s = true ↔ s ≠ [] ∧ ∀ c ∈ s, c.isDigit = true := by
  simp [Decimal.isDigits]

theorem isDigit_of_isDigits {s : Text} (h : Decimal.isDigits s = true) :
    s ≠ [] ∧ ∀ c ∈ s, c.isDigit = true := isDigits_iff.mp h

theorem endsDigits_fractionText (fraction : Option Text) :
    Text.EndsDigits (fractionText fraction) := by
  intro c hc
  cases fraction with
  | none => contradiction
  | some digits =>
      rw [← Option.mem_some_iff.mp hc]
      rfl

theorem ofUnsigned?_unsigned (n : WrittenNumeral) :
    Decimal.ofUnsigned? n.negative n.unsigned = some n.decimal := by
  have hwhole := (isDigit_of_isDigits n.isDigits_whole).2
  have hstop := endsDigits_fractionText n.fraction
  unfold Decimal.ofUnsigned? unsigned
  rw [Text.takeWhile_isDigit_append hwhole hstop, Text.dropWhile_isDigit_append hwhole hstop]
  cases hfraction : n.fraction with
  | none =>
      simp only [fractionText, n.isDigits_whole, if_true]
      simp [Decimal.ofDigits, decimal, hfraction]
  | some digits =>
      have hdigits := n.isDigits_fraction digits (by rw [hfraction]; rfl)
      simp only [fractionText, n.isDigits_whole, hdigits, decide_true, Bool.and_self, if_true]
      simp [Decimal.ofDigits, decimal, hfraction]

/-- A numeral begins with a digit, after its sign. -/
theorem exists_unsigned_eq_cons (n : WrittenNumeral) :
    ∃ c rest, n.unsigned = c :: rest ∧ c.isDigit = true := by
  obtain ⟨hne, hwhole⟩ := isDigit_of_isDigits n.isDigits_whole
  obtain ⟨c, rest, hcons⟩ := List.exists_cons_of_ne_nil hne
  exact ⟨c, _, by rw [unsigned, hcons, List.cons_append], hwhole c (hcons ▸ List.mem_cons_self)⟩

theorem ofNumeral?_text (n : WrittenNumeral) : Decimal.ofNumeral? n.text = some n.decimal := by
  have hread := n.ofUnsigned?_unsigned
  cases hsign : n.negative with
  | true =>
      rw [hsign] at hread
      rw [text, hsign]
      exact hread
  | false =>
      rw [hsign] at hread
      obtain ⟨c, rest, hcons, hdigit⟩ := n.exists_unsigned_eq_cons
      have hne : c ≠ ('-' : CodePoint) := by
        rintro rfl
        contradiction
      rw [text, hsign, hcons]
      rw [hcons] at hread
      exact (if_neg hne).trans hread

/-- What is read as a number without a sign is a numeral without its sign. -/
theorem exists_of_ofUnsigned? {negative : Bool} {s : Text} {d : Decimal}
    (h : Decimal.ofUnsigned? negative s = some d) :
    ∃ n : WrittenNumeral, n.negative = negative ∧ n.unsigned = s := by
  have hsplit := List.takeWhile_append_dropWhile (p := CodePoint.isDigit) (l := s)
  unfold Decimal.ofUnsigned? at h
  simp only at h
  split at h
  · next hrest =>
      split at h
      · next hwhole =>
          rw [hrest] at hsplit
          exact ⟨⟨negative, _, none, hwhole, nofun⟩, rfl, hsplit⟩
      · contradiction
  · next point fraction hrest =>
      split at h
      · next hparts =>
          simp only [Bool.and_eq_true, decide_eq_true_eq] at hparts
          obtain ⟨⟨rfl, hwhole⟩, hfraction⟩ := hparts
          rw [hrest] at hsplit
          refine ⟨⟨negative, _, some fraction, hwhole, fun digits hdigits => ?_⟩, rfl, hsplit⟩
          rwa [← Option.some.inj hdigits]
      · contradiction

/-- Only numerals are read as numbers. -/
theorem exists_of_ofNumeral? {s : Text} {d : Decimal} (h : Decimal.ofNumeral? s = some d) :
    ∃ n : WrittenNumeral, n.text = s := by
  cases s with
  | nil => contradiction
  | cons c rest =>
      rw [Decimal.ofNumeral?] at h
      split at h
      · next hsign =>
          obtain ⟨n, hnegative, hunsigned⟩ := exists_of_ofUnsigned? h
          exact ⟨n, by rw [text, hnegative, hunsigned, hsign]; rfl⟩
      · obtain ⟨n, hnegative, hunsigned⟩ := exists_of_ofUnsigned? h
        exact ⟨n, by rw [text, hnegative, hunsigned]; rfl⟩

/-- The characters of a numeral. -/
def isPart (c : CodePoint) : Bool := c.isDigit || c = '-' || c = '.'

theorem isPart_of_mem_text (n : WrittenNumeral) : ∀ c ∈ n.text, isPart c = true := by
  have hdigits {s : Text} (h : Decimal.isDigits s = true) : ∀ c ∈ s, isPart c = true := by
    intro c hc
    rw [isPart, (isDigit_of_isDigits h).2 c hc]
    rfl
  have hunsigned : ∀ c ∈ n.unsigned, isPart c = true := by
    refine List.forall_mem_append.mpr ⟨hdigits n.isDigits_whole, ?_⟩
    cases hfraction : n.fraction with
    | none => exact List.forall_mem_nil _
    | some digits =>
        have h := n.isDigits_fraction digits (by rw [hfraction]; rfl)
        exact List.forall_mem_cons.mpr ⟨rfl, hdigits h⟩
  rw [text]
  split
  · exact List.forall_mem_cons.mpr ⟨rfl, hunsigned⟩
  · exact hunsigned

theorem isWordPart_of_isPart {c : CodePoint} (h : isPart c = true) : isWordPart c = true := by
  rw [isPart, Bool.or_eq_true, Bool.or_eq_true, decide_eq_true_eq, decide_eq_true_eq,
    CodePoint.isDigit_iff] at h
  rcases h with (hdigit | rfl) | rfl
  · exact isWordPart_of_val (by omega) (by omega) (by omega)
  · rfl
  · rfl

theorem text_ne_nil (n : WrittenNumeral) : n.text ≠ [] := by
  intro hnil
  have hread := n.ofNumeral?_text
  rw [hnil] at hread
  contradiction

end WrittenNumeral

/-! ## Literals -/

/-- A literal as it is written. -/
inductive WrittenLiteral where
  | null
  | bool (value : Bool)
  | number (numeral : WrittenNumeral)
  /-- A string in quotes. No quote can stand in it, but any other character. -/
  | string (value : Text) (quote_not_mem : quote ∉ value)

namespace WrittenLiteral

def text : WrittenLiteral → Text
  | null => "null"
  | bool true => "true"
  | bool false => "false"
  | number numeral => numeral.text
  | string value _ => quote :: value ++ [quote]

/-- What a literal stands for. -/
def value : WrittenLiteral → Literal
  | null => .null
  | bool value => .bool value
  | number numeral => .number numeral.decimal.toBinary64
  | string value _ => .string value

theorem isQuoted_text (n : WrittenNumeral) : Literal.isQuoted n.text = false := by
  obtain ⟨c, rest, hcons⟩ := List.exists_cons_of_ne_nil n.text_ne_nil
  have hne : c ≠ quote := by
    rintro rfl
    exact absurd (n.isPart_of_mem_text quote (hcons ▸ List.mem_cons_self)) (by decide)
  simp [Literal.isQuoted, hcons, show c ≠ ('"' : CodePoint) from hne]

theorem trim_text (n : WrittenNumeral) : n.text.trim = n.text := by
  have hink : ∀ c ∈ n.text, c.isInk = true := fun c hc =>
    (isWordPart_iff.mp (WrittenNumeral.isWordPart_of_isPart (n.isPart_of_mem_text c hc))).1
  exact Text.trim_eq_self (fun c hc => hink c (List.mem_of_head? hc))
    fun c hc => hink c (List.mem_of_getLast? hc)

/-- A literal is read as what it stands for. -/
theorem parse_text (literal : WrittenLiteral) : Literal.parse literal.text = literal.value := by
  cases literal with
  | null => rfl
  | bool value => cases value <;> rfl
  | string value _ => exact Literal.parse_quoted value
  | number n =>
      have hnull : n.text ≠ "null" := by
        intro hnull
        have hmem : ('n' : CodePoint) ∈ n.text := hnull ▸ List.mem_cons_self
        exact absurd (n.isPart_of_mem_text _ hmem) (by decide)
      unfold Literal.parse
      simp only [text, trim_text, isQuoted_text, hnull, n.ofNumeral?_text]
      rfl

/-- A numeral is no word for a connective. -/
theorem ofWord?_text (n : WrittenNumeral) : Connective.ofWord? n.text = none := by
  rw [Connective.ofWord?_eq_none_iff]
  intro connective h
  obtain ⟨c, rest, hcons⟩ := List.exists_cons_of_ne_nil n.text_ne_nil
  have hmem : c ∈ n.text := hcons ▸ List.mem_cons_self
  have hletter := Case.isLetter_iff.mp (Connective.isLetter_of_lower_eq_word h c hmem)
  have hpart := n.isPart_of_mem_text c hmem
  rw [WrittenNumeral.isPart, Bool.or_eq_true, Bool.or_eq_true, decide_eq_true_eq, decide_eq_true_eq,
    CodePoint.isDigit_iff] at hpart
  rcases hpart with (hdigit | rfl) | rfl
  · omega
  · exact absurd hletter (by decide)
  · exact absurd hletter (by decide)

/-- A literal is a lexeme of its own, if white space or nothing follows. -/
theorem endsBefore_text (literal : WrittenLiteral) {gap after : Text} (hgap : IsGap gap)
    (hafter : EndsWord after) : Lexeme.EndsBefore ⟨gap, literal.text, none⟩ after := by
  cases literal with
  | string value hquote => exact .quoted after hgap hquote
  | null => exact endsBefore_word hgap (List.cons_ne_nil _ _) (List.all_eq_true.mp rfl) hafter rfl
  | bool value =>
      cases value with
      | true =>
          exact endsBefore_word hgap (List.cons_ne_nil _ _) (List.all_eq_true.mp rfl) hafter rfl
      | false =>
          exact endsBefore_word hgap (List.cons_ne_nil _ _) (List.all_eq_true.mp rfl) hafter rfl
  | number n =>
      exact endsBefore_word hgap n.text_ne_nil
        (fun c hc => WrittenNumeral.isWordPart_of_isPart (n.isPart_of_mem_text c hc)) hafter
        (ofWord?_text n)

/-- A literal has no white space at its two ends. -/
theorem isInk_text (literal : WrittenLiteral) :
    literal.text ≠ [] ∧ (∀ c ∈ literal.text.head?, c.isInk = true) ∧
      ∀ c ∈ literal.text.getLast?, c.isInk = true := by
  have hends := literal.endsBefore_text isGap_nil endsWord_nil
  obtain ⟨first, rest, hfirst, hfirstInk⟩ := hends.exists_body_eq_cons
  obtain ⟨front, last, hlast, hlastInk⟩ := hends.exists_body_eq_concat
  dsimp only at hfirst hlast
  refine ⟨hfirst ▸ List.cons_ne_nil _ _, ?_, ?_⟩
  · rw [hfirst]
    rintro c ⟨⟩
    exact hfirstInk
  · rw [hlast, List.getLast?_concat]
    rintro c ⟨⟩
    exact hlastInk

end WrittenLiteral

end ContentQuery
