import ContentQuery.Json.Reader
import ContentQuery.Json.Writer
import Mathlib.Data.List.Chain

/-!
# ContentQuery.Proofs.StringText

String literals written and read again. Escapes name units of sixteen bits, and two of them that are
the halves of a pair are read as one code point; so a text comes back unless it holds the halves of
a pair next to each other.
-/

namespace ContentQuery.Json

/-! ## Escapes -/

theorem hexDigit?_digitChar {n : Nat} (h : n < 16) :
    (CodePoint.ofChar n.digitChar).hexDigit? = some n := by
  have hall : ∀ m < 16, (CodePoint.ofChar m.digitChar).hexDigit? = some m := by decide
  exact hall n h

/-- A unit of sixteen bits has four hexadecimal digits, which denote it. -/
theorem ofNatHex_four {n : Nat} (hn : n < 0x10000) :
    Text.ofNatHex 4 n =
      [CodePoint.ofChar (n / 4096).digitChar, CodePoint.ofChar (n / 256 % 16).digitChar,
        CodePoint.ofChar (n / 16 % 16).digitChar, CodePoint.ofChar (n % 16).digitChar] := by
  have hsplit (m : Nat) : Nat.toDigits 16 m =
      if m < 16 then [m.digitChar] else Nat.toDigits 16 (m / 16) ++ [(m % 16).digitChar] :=
    Nat.toDigits_eq_if (by decide)
  have hzero : CodePoint.ofChar (Nat.digitChar 0) = CodePoint.ofChar '0' := rfl
  have h256 : n / 16 / 16 = n / 256 := by omega
  have h4096 : n / 256 / 16 = n / 4096 := by omega
  rw [Text.ofNatHex, hsplit n]
  by_cases h1 : n < 16
  · have hlow : n % 16 = n := by omega
    rw [if_pos h1, show n / 4096 = 0 by omega, show n / 256 % 16 = 0 by omega,
      show n / 16 % 16 = 0 by omega, hlow, hzero]
    rfl
  rw [if_neg h1, hsplit (n / 16)]
  by_cases h2 : n / 16 < 16
  · rw [if_pos h2, show n / 4096 = 0 by omega, show n / 256 % 16 = 0 by omega,
      show n / 16 % 16 = n / 16 by omega, hzero]
    rfl
  rw [if_neg h2, h256, hsplit (n / 256)]
  by_cases h3 : n / 256 < 16
  · rw [if_pos h3, show n / 4096 = 0 by omega, show n / 256 % 16 = n / 256 by omega, hzero]
    rfl
  · rw [if_neg h3, h4096, hsplit (n / 4096), if_pos (by omega)]
    rfl

theorem readPieces_unitEscape (done : List Piece) {n : Nat} (hn : n < 0x10000) (rest : Text) :
    readPieces done (unitEscape n ++ rest) = readPieces (.unit (.ofNat n) :: done) rest := by
  have hunit : hexUnit? (CodePoint.ofChar (n / 4096).digitChar)
      (CodePoint.ofChar (n / 256 % 16).digitChar) (CodePoint.ofChar (n / 16 % 16).digitChar)
      (CodePoint.ofChar (n % 16).digitChar) = some (.ofNat n) := by
    rw [hexUnit?, hexDigit?_digitChar (by omega), hexDigit?_digitChar (by omega),
      hexDigit?_digitChar (by omega), hexDigit?_digitChar (by omega)]
    simp only [Option.bind_eq_bind, Option.bind_some, Option.pure_def, Option.some.injEq]
    congr 1
    omega
  rw [unitEscape, ofNatHex_four hn]
  change readPieces done (('\\' : CodePoint) :: ('u' : CodePoint) :: _ :: _ :: _ :: _ :: rest) = _
  rw [readPieces]
  simp only [hunit]
  rfl

/-- The elements of a literal that one code point is written as. -/
def piecesOf (ascii : Bool) (c : CodePoint) : List Piece :=
  if c = '"' || c = '\\' || c = '\n' || c = '\r' || c = '\t' || c.val = 0x08 || c.val = 0x0C then
    [.plain c]
  else if c.val < 0x20 then [.unit c]
  else if ascii && 0x7F ≤ c.val then
    if c.val < 0x10000 then [.unit c]
    else [.unit (.ofNat (0xD800 + (c.val - 0x10000) / 0x400)),
      .unit (.ofNat (0xDC00 + (c.val - 0x10000) % 0x400))]
  else [.plain c]

/-- What a code point is written as: itself, one unit or the two units of a pair. -/
theorem piecesOf_cases (ascii : Bool) (c : CodePoint) :
    piecesOf ascii c = [.plain c] ∨ piecesOf ascii c = [.unit c] ∨
      0x10000 ≤ c.val ∧ piecesOf ascii c =
        [.unit (.ofNat (0xD800 + (c.val - 0x10000) / 0x400)),
          .unit (.ofNat (0xDC00 + (c.val - 0x10000) % 0x400))] := by
  unfold piecesOf
  split
  · exact .inl rfl
  split
  · exact .inr (.inl rfl)
  split
  · split
    · exact .inr (.inl rfl)
    · next hplane => exact .inr (.inr ⟨by omega, rfl⟩)
  · exact .inl rfl

theorem ofNat_val (c : CodePoint) : CodePoint.ofNat c.val = c := by
  rw [CodePoint.ofNat, dif_pos c.isLt]

theorem readPieces_shortEscape (done : List Piece) {e c : CodePoint} (he : e ≠ 'u')
    (hc : shortEscape? e = some c) (rest : Text) :
    readPieces done ('\\' :: e :: rest) = readPieces (.plain c :: done) rest := by
  rw [readPieces.eq_def]
  simp only [if_neg he, hc]
  rfl

theorem readPieces_escape (ascii : Bool) (done : List Piece) (c : CodePoint) (rest : Text) :
    readPieces done (escape ascii c ++ rest) =
      readPieces ((piecesOf ascii c).reverse ++ done) rest := by
  by_cases hquote : c = '"'
  · subst hquote
    exact readPieces_shortEscape done (by decide) rfl rest
  by_cases hslash : c = '\\'
  · subst hslash
    exact readPieces_shortEscape done (by decide) rfl rest
  by_cases hline : c = '\n'
  · subst hline
    exact readPieces_shortEscape done (by decide) rfl rest
  by_cases hreturn : c = '\r'
  · subst hreturn
    exact readPieces_shortEscape done (by decide) rfl rest
  by_cases htab : c = '\t'
  · subst htab
    exact readPieces_shortEscape done (by decide) rfl rest
  by_cases hback : c.val = 0x08
  · obtain rfl : c = .ofNat 0x08 := Fin.ext hback
    exact readPieces_shortEscape done (by decide) rfl rest
  by_cases hform : c.val = 0x0C
  · obtain rfl : c = .ofNat 0x0C := Fin.ext hform
    exact readPieces_shortEscape done (by decide) rfl rest
  have hplain : ¬ (c = '"' || c = '\\' || c = '\n' || c = '\r' || c = '\t' || c.val = 0x08 ||
      c.val = 0x0C) = true := by
    simp [hquote, hslash, hline, hreturn, htab, hback, hform]
  rw [escape, if_neg hquote, if_neg hslash, if_neg hline, if_neg hreturn, if_neg htab, if_neg hback,
    if_neg hform, piecesOf, if_neg hplain]
  by_cases hcontrol : c.val < 0x20
  · rw [if_pos hcontrol, if_pos hcontrol, readPieces_unitEscape done (by omega), ofNat_val]
    rfl
  rw [if_neg hcontrol, if_neg hcontrol]
  by_cases hascii : (ascii && 0x7F ≤ c.val) = true
  · rw [if_pos hascii, if_pos hascii]
    by_cases hplane : c.val < 0x10000
    · rw [if_pos hplane, if_pos hplane, readPieces_unitEscape done hplane, ofNat_val]
      rfl
    · have hbound := c.isLt
      rw [if_neg hplane, if_neg hplane, List.append_assoc, readPieces_unitEscape done (by omega),
        readPieces_unitEscape _ (by omega)]
      rfl
  · rw [if_neg hascii, if_neg hascii, List.singleton_append, readPieces.eq_def]
    simp only [if_neg hquote, if_neg hcontrol, if_pos (show c ≠ '\\' from hslash)]
    rfl

theorem readPieces_flatMap_escape (ascii : Bool) (done : List Piece) (s rest : Text) :
    readPieces done (s.flatMap (escape ascii) ++ ('"' : CodePoint) :: rest) =
      .ok (done.reverse ++ s.flatMap (piecesOf ascii), rest) := by
  induction s generalizing done with
  | nil =>
      rw [List.flatMap_nil, List.flatMap_nil, List.nil_append, List.append_nil, readPieces.eq_def]
      exact if_pos rfl
  | cons c s ih =>
      rw [List.flatMap_cons, List.flatMap_cons, List.append_assoc, readPieces_escape, ih]
      simp

/-! ## Halves of pairs -/

/-- Whether no high surrogate has a low one behind it. -/
def IsJoined (s : Text) : Prop :=
  s.IsChain fun high low => ¬ (high.isHighSurrogate = true ∧ low.isLowSurrogate = true)

instance (s : Text) : Decidable (IsJoined s) :=
  inferInstanceAs (Decidable (s.IsChain fun high low =>
    ¬ (high.isHighSurrogate = true ∧ low.isLowSurrogate = true)))

/-- A half stays alone if no other half follows. -/
theorem joinPieces_unit {c : CodePoint} {pieces : List Piece}
    (h : ∀ low later, pieces = .unit low :: later →
      ¬ (c.isHighSurrogate = true ∧ low.isLowSurrogate = true)) :
    joinPieces (.unit c :: pieces) = c :: joinPieces pieces := by
  cases pieces with
  | nil => rfl
  | cons piece later =>
      cases piece with
      | plain d => rfl
      | unit low =>
          have hnot := h low later rfl
          rw [joinPieces, if_neg (by simpa using hnot)]

/-- The two units that a code point beyond the basic plane is written as name it. -/
theorem joinPieces_pair {c : CodePoint} (hc : 0x10000 ≤ c.val) (pieces : List Piece) :
    joinPieces (.unit (.ofNat (0xD800 + (c.val - 0x10000) / 0x400)) ::
      .unit (.ofNat (0xDC00 + (c.val - 0x10000) % 0x400)) :: pieces) = c :: joinPieces pieces := by
  have hbound := c.isLt
  have hhigh : (CodePoint.ofNat (0xD800 + (c.val - 0x10000) / 0x400)).val =
      0xD800 + (c.val - 0x10000) / 0x400 := by
    rw [CodePoint.ofNat, dif_pos (by omega)]
  have hlow : (CodePoint.ofNat (0xDC00 + (c.val - 0x10000) % 0x400)).val =
      0xDC00 + (c.val - 0x10000) % 0x400 := by
    rw [CodePoint.ofNat, dif_pos (by omega)]
  have hhalves : ((CodePoint.ofNat (0xD800 + (c.val - 0x10000) / 0x400)).isHighSurrogate &&
      (CodePoint.ofNat (0xDC00 + (c.val - 0x10000) % 0x400)).isLowSurrogate) = true := by
    simp only [CodePoint.isHighSurrogate, CodePoint.isLowSurrogate, hhigh, hlow, Bool.and_eq_true,
      decide_eq_true_eq]
    omega
  have hjoin : joinSurrogates (.ofNat (0xD800 + (c.val - 0x10000) / 0x400))
      (.ofNat (0xDC00 + (c.val - 0x10000) % 0x400)) = c := by
    rw [joinSurrogates, hhigh, hlow]
    have hvalue : 0x10000 + (0xD800 + (c.val - 0x10000) / 0x400 - 0xD800) * 0x400 +
        (0xDC00 + (c.val - 0x10000) % 0x400 - 0xDC00) = c.val := by omega
    rw [hvalue, ofNat_val]
  rw [joinPieces, if_pos hhalves, hjoin]

/-- A text whose literal begins with a low surrogate begins with it. -/
theorem eq_of_piecesOf_unit {ascii : Bool} {c low : CodePoint} {later pieces : List Piece}
    (h : piecesOf ascii c ++ pieces = .unit low :: later) (hlow : low.isLowSurrogate = true) :
    c = low := by
  rcases piecesOf_cases ascii c with hpieces | hpieces | ⟨hplane, hpieces⟩ <;> rw [hpieces] at h
  · simp at h
  · simpa using (List.cons.inj h).1
  · have hbound := c.isLt
    have hhigh : (CodePoint.ofNat (0xD800 + (c.val - 0x10000) / 0x400)).val =
        0xD800 + (c.val - 0x10000) / 0x400 := by
      rw [CodePoint.ofNat, dif_pos (by omega)]
    have heq : CodePoint.ofNat (0xD800 + (c.val - 0x10000) / 0x400) = low := by
      simpa using (List.cons.inj h).1
    rw [← heq, CodePoint.isLowSurrogate, hhigh] at hlow
    simp only [Bool.and_eq_true, decide_eq_true_eq] at hlow
    omega

/-- A text that holds no pair of halves is what its literal is read as. -/
theorem joinPieces_flatMap (ascii : Bool) {s : Text} (hs : IsJoined s) :
    joinPieces (s.flatMap (piecesOf ascii)) = s := by
  induction s with
  | nil => rfl
  | cons c s ih =>
      have hrest : IsJoined s := hs.tail
      have halone : ∀ low later, s.flatMap (piecesOf ascii) = .unit low :: later →
          ¬ (c.isHighSurrogate = true ∧ low.isLowSurrogate = true) := by
        intro low later hunit hpair
        cases s with
        | nil => contradiction
        | cons d s =>
            rw [List.flatMap_cons] at hunit
            obtain rfl := eq_of_piecesOf_unit hunit hpair.2
            exact (List.isChain_cons_cons.mp hs).1 hpair
      rw [List.flatMap_cons]
      rcases piecesOf_cases ascii c with hpieces | hpieces | ⟨hplane, hpieces⟩ <;> rw [hpieces]
      · rw [List.singleton_append, joinPieces, ih hrest]
      · rw [List.singleton_append, joinPieces_unit halone, ih hrest]
      · rw [List.cons_append, List.singleton_append, joinPieces_pair hplane, ih hrest]

/-- A string literal reads back as the text that it was written for. -/
theorem readString_writeString (ascii : Bool) {s : Text} (hs : IsJoined s) (rest : Text) :
    ∃ literal, writeString ascii s ++ rest = ('"' : CodePoint) :: literal ∧
      readString literal = .ok (s, rest) := by
  refine ⟨s.flatMap (escape ascii) ++ ('"' : CodePoint) :: rest, ?_, ?_⟩
  · rw [writeString, List.append_assoc, List.append_assoc]
    rfl
  · rw [readString, readPieces_flatMap_escape, List.reverse_nil, List.nil_append]
    change Except.ok (joinPieces (s.flatMap (piecesOf ascii)), rest) = _
    rw [joinPieces_flatMap ascii hs]

end ContentQuery.Json
