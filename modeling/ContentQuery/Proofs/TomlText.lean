import ContentQuery.Proofs.Digits
import ContentQuery.Proofs.StringText
import ContentQuery.Toml.Reader
import ContentQuery.Toml.Writer

/-!
# ContentQuery.Proofs.TomlText

The values of a settings file written and read again: every text comes back from its string, and an
integer comes back from its digits if it has no more of them than are converted.
-/

namespace ContentQuery.Toml

/-- A mark that is not of a kind differs from every code point that is. -/
theorem ne_of_kind {p : CodePoint → Bool} {c mark : CodePoint} (hc : p c = true)
    (hmark : p mark = false) : c ≠ mark := by
  rintro rfl
  rw [hc] at hmark
  contradiction

/-! ## Strings -/

section Strings

variable {state next : StringState} {c d : CodePoint} {rest after s : Text}

/-- A step that gives a character puts it before what the rest of the string is read as. -/
theorem readBasicFrom_emit (hstep : stringStep false state c rest = .emit d)
    (h : readBasicFrom false .plain rest = .ok (s, after)) :
    readBasicFrom false state (c :: rest) = .ok (d :: s, after) := by
  rw [readBasicFrom.eq_def]
  simp only [hstep, h]
  rfl

/-- A step that gives no character goes on with the rest of the string. -/
theorem readBasicFrom_skip (hstep : stringStep false state c rest = .skip next) :
    readBasicFrom false state (c :: rest) = readBasicFrom false next rest := by
  rw [readBasicFrom.eq_def]
  simp only [hstep]

theorem readBasicFrom_backslash (rest : Text) :
    readBasicFrom false .plain ('\\' :: rest) = readBasicFrom false .escape rest :=
  readBasicFrom_skip rfl

/-- An escape of one letter is read as the character that it stands for. -/
theorem readBasicFrom_shortEscape (hu : c ≠ 'u') (hU : c ≠ 'U') (hc : shortEscape? c = some d)
    (h : readBasicFrom false .plain rest = .ok (s, after)) :
    readBasicFrom false .plain ('\\' :: c :: rest) = .ok (d :: s, after) := by
  rw [readBasicFrom_backslash]
  refine readBasicFrom_emit ?_ h
  simp [stringStep, escapeStep, hu, hU, hc]

/-- A digit of an escape that is not the last one is added to the number. -/
theorem readBasicFrom_digit {missing value n : Nat} (hc : c.hexDigit? = some n) :
    readBasicFrom false (.number (missing + 2) value) (c :: rest) =
      readBasicFrom false (.number (missing + 1) (16 * value + n)) rest := by
  refine readBasicFrom_skip ?_
  simp [stringStep, numberStep, hc]

/-- The last digit of an escape completes the number of a character. -/
theorem readBasicFrom_lastDigit {value n : Nat} (hc : c.hexDigit? = some n)
    (hd : scalar? (16 * value + n) = some d)
    (h : readBasicFrom false .plain rest = .ok (s, after)) :
    readBasicFrom false (.number 1 value) (c :: rest) = .ok (d :: s, after) := by
  refine readBasicFrom_emit ?_ h
  simp [stringStep, numberStep, hc, hd]

/-- A code point that is written by its number is read from it. -/
theorem readBasicFrom_numberEscape (hbound : c.val < 0x10000) (hc : c.isSurrogate = false)
    (h : readBasicFrom false .plain rest = .ok (s, after)) :
    readBasicFrom false .plain ("\\u" ++ Text.ofNatHex 4 c.val ++ rest) = .ok (c :: s, after) := by
  have hscalar : scalar? c.val = some c := by
    rw [scalar?, dif_pos c.isLt, hc]
    rfl
  have hstart : readBasicFrom false .plain ('\\' :: 'u' :: (Text.ofNatHex 4 c.val ++ rest)) =
      readBasicFrom false (.number 4 0) (Text.ofNatHex 4 c.val ++ rest) := by
    rw [readBasicFrom_backslash]
    exact readBasicFrom_skip rfl
  refine hstart.trans ?_
  rw [Json.ofNatHex_four hbound, List.cons_append, List.cons_append, List.cons_append,
    List.cons_append, List.nil_append,
    readBasicFrom_digit (Json.hexDigit?_digitChar (by omega)),
    readBasicFrom_digit (Json.hexDigit?_digitChar (by omega)),
    readBasicFrom_digit (Json.hexDigit?_digitChar (by omega))]
  refine readBasicFrom_lastDigit (Json.hexDigit?_digitChar (by omega)) ?_ h
  rw [← hscalar]
  congr 1
  omega

/-- The controls are those of ASCII without the tab. -/
theorem isControl_iff : isControl c = true ↔ (c.val < 0x20 ∧ c ≠ '\t') ∨ c.val = 0x7F := by
  simp [isControl]

/-- What is written for a character is read as this character. -/
theorem readBasicFrom_escape (h : readBasicFrom false .plain rest = .ok (s, after)) :
    readBasicFrom false .plain (escape c ++ rest) = .ok (c :: s, after) := by
  unfold escape
  split
  · next hquote => exact hquote ▸ readBasicFrom_shortEscape (by decide) (by decide) rfl h
  split
  · next hslash => exact hslash ▸ readBasicFrom_shortEscape (by decide) (by decide) rfl h
  split
  · next hline => exact hline ▸ readBasicFrom_shortEscape (by decide) (by decide) rfl h
  split
  · next hreturn => exact hreturn ▸ readBasicFrom_shortEscape (by decide) (by decide) rfl h
  split
  · next hback =>
      obtain rfl : c = .ofNat 0x08 := Fin.ext hback
      exact readBasicFrom_shortEscape (by decide) (by decide) rfl h
  split
  · next hform =>
      obtain rfl : c = .ofNat 0x0C := Fin.ext hform
      exact readBasicFrom_shortEscape (by decide) (by decide) rfl h
  split
  · next hcontrol =>
      have hsmall : c.val < 0x80 := by
        rcases isControl_iff.mp hcontrol with ⟨hlow, -⟩ | hdelete <;> omega
      refine readBasicFrom_numberEscape (by omega) ?_ h
      rw [CodePoint.isSurrogate, Bool.and_eq_false_iff, decide_eq_false_iff_not]
      exact .inl (by omega)
  · next hquote hslash _ _ _ _ hcontrol =>
      refine readBasicFrom_emit ?_ h
      simp [stringStep, plainStep, hquote, hslash, hcontrol]

/-- What is written for a text inside a string is read as this text. -/
theorem readBasic_flatMap_escape (s rest : Text) :
    readBasic false (s.flatMap escape ++ ('"' : CodePoint) :: rest) = .ok (s, rest) := by
  rw [readBasic]
  induction s with
  | nil =>
      rw [List.flatMap_nil, List.nil_append, readBasicFrom.eq_def]
      rfl
  | cons c s ih =>
      rw [List.flatMap_cons, List.append_assoc]
      exact readBasicFrom_escape ih

/-- Whether a code point is a printed character of ASCII. -/
def IsGraphic (c : CodePoint) : Prop := 0x20 ≤ c.val ∧ c.val < 0x7F

/-- Hexadecimal digits are graphic. -/
theorem isGraphic_digitChar {n : Nat} (hn : n < 16) : IsGraphic (.ofChar n.digitChar) := by
  have hall : ∀ m < 16, 0x20 ≤ (CodePoint.ofChar m.digitChar).val ∧
      (CodePoint.ofChar m.digitChar).val < 0x7F := by decide
  exact hall n hn

theorem isGraphic_of_all {s : Text}
    (h : s.all (fun c => decide (0x20 ≤ c.val ∧ c.val < 0x7F)) = true) : ∀ c ∈ s, IsGraphic c := by
  unfold IsGraphic
  simpa [List.all_eq_true] using h

/-- In the escape of a code point there are printed characters only, unless it stands for itself. -/
theorem mem_escape (h : d ∈ escape c) : IsGraphic d ∨ (d = c ∧ isControl c = false) := by
  unfold escape at h
  repeat' split at h
  any_goals exact .inl (isGraphic_of_all rfl d h)
  · next hcontrol =>
      have hbound : c.val < 0x10000 := by
        rcases isControl_iff.mp hcontrol with ⟨hlow, -⟩ | hdelete <;> omega
      rcases List.mem_append.mp h with hmark | hdigit
      · exact .inl (isGraphic_of_all rfl d hmark)
      · rw [Json.ofNatHex_four hbound] at hdigit
        simp only [List.mem_cons, List.not_mem_nil, or_false] at hdigit
        rcases hdigit with rfl | rfl | rfl | rfl <;>
          exact .inl (isGraphic_digitChar (by omega))
  · next hcontrol => exact .inr ⟨List.mem_singleton.mp h, (Bool.not_eq_true _).mp hcontrol⟩

/-- What is written for a character does not begin with a quote. -/
theorem head?_escape_ne (c : CodePoint) : ∃ d later, escape c = d :: later ∧ d ≠ '"' := by
  unfold escape
  split
  · exact ⟨_, _, rfl, by decide⟩
  · next hquote =>
      repeat' split
      all_goals first | exact ⟨_, _, rfl, by decide⟩ | exact ⟨_, _, rfl, hquote⟩

/-- A string that no quote follows is read as the text that it was written for. -/
theorem readString?_writeString (s : Text) (hrest : rest.head? ≠ some ('"' : CodePoint)) :
    readString? (writeString s ++ rest) = some (.ok (s, rest)) := by
  have hcons : writeString s ++ rest =
      ('"' : CodePoint) :: (s.flatMap escape ++ ('"' : CodePoint) :: rest) := by
    rw [writeString, List.append_assoc, List.append_assoc]
    rfl
  have hone : threeQuotes.isPrefixOf
      (('"' : CodePoint) :: (s.flatMap escape ++ ('"' : CodePoint) :: rest)) = false := by
    cases s with
    | nil =>
        cases rest with
        | nil => rfl
        | cons c later =>
            have hc : c ≠ '"' := fun heq => hrest (congrArg some heq)
            simp [threeQuotes, Text.ofString, List.isPrefixOf, hc.symm]
    | cons c s =>
        obtain ⟨d, later, hescape, hd⟩ := head?_escape_ne c
        simp [threeQuotes, Text.ofString, List.isPrefixOf, hescape, hd.symm]
  rw [hcons]
  simp only [readString?, if_pos, hone]
  exact congrArg some (readBasic_flatMap_escape s rest)

end Strings

/-! ## Integers -/

section Integers

variable {digits rest s : Text} {mark c : CodePoint}

/-- A mark is not taken where the text begins with something else. -/
theorem after?_eq_none (h : ∀ c ∈ s.head?, c ≠ mark) : after? mark s = none := by
  cases s with
  | nil => rfl
  | cons c s => exact if_neg (h c rfl)

/-- After digits at the end of a line another digit or the line end follows. -/
theorem after?_digits (hdigits : ∀ c ∈ digits, c.isDigit = true) (hmark : mark.isDigit = false)
    (hline : mark ≠ '\n') : after? mark (digits ++ ('\n' : CodePoint) :: rest) = none := by
  apply after?_eq_none
  intro c hc
  cases digits with
  | nil =>
      obtain rfl := Option.some.inj hc
      exact hline.symm
  | cons d digits =>
      obtain rfl := Option.some.inj hc
      exact ne_of_kind (hdigits d List.mem_cons_self) hmark

/-- No number of digits begins with something else. -/
theorem number?_cons_eq_none {count least most : Nat} (hc : c.isDigit = false) (s : Text) :
    number? (count + 1) least most (c :: s) = none := by
  simp [number?, hc]

/-- No number goes beyond the line. -/
theorem number?_digits {count least most n : Nat} {after : Text}
    (h : number? count least most (digits ++ ('\n' : CodePoint) :: rest) = some (n, after)) :
    after = digits.drop count ++ ('\n' : CodePoint) :: rest := by
  unfold number? at h
  simp only at h
  split at h
  · next hnumber =>
      obtain ⟨-, rfl⟩ := Prod.mk.inj (Option.some.inj h)
      simp only [Bool.and_eq_true, List.all_eq_true] at hnumber
      -- A number longer than the digits would take in the line end, which is no digit.
      have hcount : count ≤ digits.length := by
        by_contra hmore
        have hline : ('\n' : CodePoint) ∈ (digits ++ ('\n' : CodePoint) :: rest).take count := by
          obtain ⟨k, hk⟩ := Nat.exists_eq_add_of_lt (Nat.not_le.mp hmore)
          rw [hk, List.take_append, Nat.add_assoc, Nat.add_sub_cancel_left]
          exact List.mem_append_right _ List.mem_cons_self
        exact absurd (hnumber.1.1.2 _ hline) (by decide)
      rw [List.drop_append_of_le_length hcount]
  · contradiction

/-- Behind digits at the end of a line comes a digit or the end, and no other mark. -/
theorem after?_of_number? {count least most n : Nat} {after : Text}
    (hdigits : ∀ c ∈ digits, c.isDigit = true)
    (h : number? count least most (digits ++ ('\n' : CodePoint) :: rest) = some (n, after))
    (hmark : mark.isDigit = false) (hline : mark ≠ '\n') : after? mark after = none := by
  rw [number?_digits h]
  exact after?_digits (fun c hc => hdigits c (List.mem_of_mem_drop hc)) hmark hline

/-- Digits alone are no date. -/
theorem date?_digits (hdigits : ∀ c ∈ digits, c.isDigit = true) :
    date? (digits ++ ('\n' : CodePoint) :: rest) = none := by
  unfold date?
  cases hyear : number? 4 0 9999 (digits ++ ('\n' : CodePoint) :: rest) with
  | none => rfl
  | some read =>
      have hmark : after? '-' read.2 = none := after?_of_number? hdigits hyear rfl (by decide)
      simp [hmark]

/-- Digits alone are no time of day. -/
theorem afterTime?_digits (hdigits : ∀ c ∈ digits, c.isDigit = true) :
    afterTime? (digits ++ ('\n' : CodePoint) :: rest) = none := by
  unfold afterTime?
  cases hhour : number? 2 0 23 (digits ++ ('\n' : CodePoint) :: rest) with
  | none => rfl
  | some read =>
      have hmark : after? ':' read.2 = none := after?_of_number? hdigits hhour rfl (by decide)
      simp [hmark]

/-- Digits at the end of a line are neither a date nor a time of day. -/
theorem readMoment?_digits (hdigits : ∀ c ∈ digits, c.isDigit = true) :
    readMoment? (digits ++ ('\n' : CodePoint) :: rest) = none := by
  rw [readMoment?, date?_digits hdigits, afterTime?_digits hdigits]
  rfl

/-- Dates and times of day begin with a digit. -/
theorem readMoment?_cons_eq_none (hc : c.isDigit = false) (s : Text) :
    readMoment? (c :: s) = none := by
  rw [readMoment?, date?, afterTime?, number?_cons_eq_none hc, number?_cons_eq_none hc]
  rfl

/-- Digits at the end of a line are taken up to the end. -/
theorem digitRun_digits (hdigits : ∀ c ∈ digits, c.isDigit = true) (rest : Text) :
    digitRun CodePoint.isDigit (digits ++ ('\n' : CodePoint) :: rest) =
      (digits, ('\n' : CodePoint) :: rest) := by
  induction digits with
  | nil => rfl
  | cons c digits ih =>
      obtain ⟨hc, hdigits⟩ := List.forall_mem_cons.mp hdigits
      rw [List.cons_append, digitRun, if_pos hc, ih hdigits]

/-- A number begins with a digit. -/
theorem exists_ofNat_eq_cons (n : Nat) :
    ∃ c digits, Text.ofNat n = c :: digits ∧ c.isDigit = true := by
  cases hdigits : Text.ofNat n with
  | nil => exact absurd hdigits (Text.ofNat_ne_nil n)
  | cons c digits =>
      exact ⟨c, digits, rfl, Text.isDigit_of_mem_ofNat (hdigits ▸ List.mem_cons_self)⟩

/-- Only the digits of zero begin with a zero. -/
theorem after?_zero_ofNat {n : Nat} (hn : n ≠ 0) (s : Text) :
    after? '0' (Text.ofNat n ++ s) = none := by
  have hfirst := Text.head?_ofNat_ne_zero hn
  obtain ⟨c, digits, hdigits, -⟩ := exists_ofNat_eq_cons n
  rw [hdigits] at hfirst ⊢
  exact if_neg fun heq => hfirst (congrArg some heq)

/-- A number at the end of a line is taken as the whole part. -/
theorem whole?_ofNat (n : Nat) (rest : Text) :
    whole? (Text.ofNat n ++ ('\n' : CodePoint) :: rest) =
      some (Text.ofNat n, ('\n' : CodePoint) :: rest) := by
  by_cases hn : n = 0
  · rw [hn]
    rfl
  have hfirst : ((Text.ofNat n ++ ('\n' : CodePoint) :: rest).head?.map
      CodePoint.isDigit).getD false = true := by
    obtain ⟨c, digits, hdigits, hc⟩ := exists_ofNat_eq_cons n
    rw [hdigits]
    exact hc
  rw [whole?, after?_zero_ofNat hn]
  simp only [digitRun?, hfirst, if_true, digitRun_digits fun _ => Text.isDigit_of_mem_ofNat]

/-- A number as it is written has no base mark. -/
theorem based?_ofNat (n : Nat) (rest : Text) :
    based? (Text.ofNat n ++ ('\n' : CodePoint) :: rest) = none := by
  by_cases hn : n = 0
  · rw [hn]
    rfl
  · rw [based?, after?_zero_ofNat hn]
    rfl

/-- A number as it is written has no sign. -/
theorem splitSign_ofNat (n : Nat) (s : Text) :
    splitSign (Text.ofNat n ++ s) = (false, Text.ofNat n ++ s) := by
  obtain ⟨c, digits, hdigits, hc⟩ := exists_ofNat_eq_cons n
  rw [hdigits, List.cons_append, splitSign, if_neg (ne_of_kind hc rfl),
    if_neg (ne_of_kind hc rfl)]

/-- A number is no string. -/
theorem readString?_ofNat (n : Nat) (s : Text) : readString? (Text.ofNat n ++ s) = none := by
  obtain ⟨c, digits, hdigits, hc⟩ := exists_ofNat_eq_cons n
  rw [hdigits, List.cons_append, readString?, if_neg (ne_of_kind hc rfl),
    if_neg (ne_of_kind hc rfl)]

/-- A sign and a number of not too many digits are read as an integer. -/
theorem decimal?_of_splitSign {negative : Bool} {n : Nat}
    (hsign : splitSign s = (negative, Text.ofNat n ++ ('\n' : CodePoint) :: rest))
    (hn : n < 10 ^ maxDigits) :
    decimal? s =
      some (.ok (.integer (if negative then -n else n), ('\n' : CodePoint) :: rest)) := by
  have hlength : ¬ maxDigits < (Text.ofNat n).length :=
    Nat.not_lt.mpr ((Text.length_ofNat_le_iff (by decide)).mpr hn)
  have hfraction : fraction? (('\n' : CodePoint) :: rest) = none := rfl
  have hexponent : exponent? (('\n' : CodePoint) :: rest) = none := rfl
  simp [decimal?, hsign, whole?_ofNat, hfraction, hexponent, hlength, Text.digitsValue_ofNat]

/-- A number of not too many digits comes back. -/
theorem readScalar_ofNat {n : Nat} (hn : n < 10 ^ maxDigits) (rest : Text) :
    readScalar (Text.ofNat n ++ ('\n' : CodePoint) :: rest) =
      .ok (.integer n, ('\n' : CodePoint) :: rest) := by
  rw [readScalar, readString?_ofNat]
  simp only [readMoment?_digits fun _ => Text.isDigit_of_mem_ofNat, based?_ofNat,
    decimal?_of_splitSign (splitSign_ofNat n _) hn]
  rfl

/-- A negative number of not too many digits comes back. -/
theorem readScalar_minus {n : Nat} (hn : n < 10 ^ maxDigits) (rest : Text) :
    readScalar ('-' :: (Text.ofNat n ++ ('\n' : CodePoint) :: rest)) =
      .ok (.integer (-n), ('\n' : CodePoint) :: rest) := by
  have hstring : readString? ('-' :: (Text.ofNat n ++ ('\n' : CodePoint) :: rest)) = none := rfl
  have hbased : based? ('-' :: (Text.ofNat n ++ ('\n' : CodePoint) :: rest)) = none := rfl
  have hsign : splitSign ('-' :: (Text.ofNat n ++ ('\n' : CodePoint) :: rest)) =
      (true, Text.ofNat n ++ ('\n' : CodePoint) :: rest) := rfl
  rw [readScalar, hstring]
  simp only [readMoment?_cons_eq_none (show CodePoint.isDigit '-' = false from rfl), hbased,
    decimal?_of_splitSign hsign hn]
  rfl

/-- An integer at the end of a line is read from its digits. -/
theorem readScalar_ofInt {n : Int} (hn : n.natAbs < 10 ^ maxDigits) (rest : Text) :
    readScalar (Text.ofInt n ++ ('\n' : CodePoint) :: rest) =
      .ok (.integer n, ('\n' : CodePoint) :: rest) := by
  cases n with
  | ofNat n => exact readScalar_ofNat hn rest
  | negSucc n => exact readScalar_minus hn rest

end Integers

/-! ## Values -/

/-- The value that is written. -/
def Plain.value : Plain → Value
  | string s => .string s
  | integer n => .integer n
  | boolean b => .boolean b

/-- Whether a value can be read after it has been written: an integer must not have too many
digits. -/
def Plain.IsReadable : Plain → Prop
  | string _ => True
  | integer n => n.natAbs < 10 ^ maxDigits
  | boolean _ => True

/-- What opens no array and no table is read without regard for the room. -/
theorem readValue_eq_readScalar {c : CodePoint} (harray : c ≠ '[') (htable : c ≠ '\x7b')
    (nesting : Nat) (s : Text) : readValue nesting (c :: s) = readScalar (c :: s) := by
  rw [readValue.eq_def]
  split
  · simp only [if_neg harray, if_neg htable]
  · simp [harray, htable]

/-- A value that can be written comes back, at the end of a line. -/
theorem readScalar_plain {v : Plain} (hv : v.IsReadable) (rest : Text) :
    readScalar (v.text ++ ('\n' : CodePoint) :: rest) =
      .ok (v.value, ('\n' : CodePoint) :: rest) := by
  cases v with
  | string s =>
      have hline : (('\n' : CodePoint) :: rest).head? ≠ some ('"' : CodePoint) := by
        rw [List.head?_cons]
        decide
      rw [readScalar, Plain.text, readString?_writeString s hline]
      rfl
  | integer n => exact readScalar_ofInt hv rest
  | boolean b => cases b <;> rfl

/-- A value is written as something that opens no array and no table. -/
theorem exists_text_eq_cons (v : Plain) :
    ∃ c s, v.text = c :: s ∧ c ≠ '[' ∧ c ≠ '\x7b' ∧ isSpace c = false := by
  cases v with
  | string s => exact ⟨'"', s.flatMap escape ++ "\"", rfl, by decide, by decide, rfl⟩
  | integer n =>
      cases n with
      | ofNat n =>
          obtain ⟨c, digits, hdigits, hc⟩ := exists_ofNat_eq_cons n
          refine ⟨c, digits, hdigits, ne_of_kind hc rfl, ne_of_kind hc rfl, ?_⟩
          have hblank : c ≠ ' ' := ne_of_kind hc rfl
          have htab : c ≠ '\t' := ne_of_kind hc rfl
          simp [isSpace, hblank, htab]
      | negSucc n => exact ⟨'-', Text.ofNat (n + 1), rfl, by decide, by decide, rfl⟩
  | boolean b => cases b <;> exact ⟨_, _, rfl, by decide, by decide, rfl⟩

/-- A value at the end of a line is read as it was written, and white space before it does not
matter. -/
theorem readValue_plain {v : Plain} (hv : v.IsReadable) (nesting : Nat) (rest : Text) :
    readValue nesting (skipSpace (v.text ++ ('\n' : CodePoint) :: rest)) =
      .ok (v.value, ('\n' : CodePoint) :: rest) := by
  have hread := readScalar_plain hv rest
  obtain ⟨c, s, htext, harray, htable, hspace⟩ := exists_text_eq_cons v
  rw [htext, List.cons_append] at hread ⊢
  rw [skipSpace, List.dropWhile_cons_of_neg (by rw [hspace]; decide),
    readValue_eq_readScalar harray htable, hread]

end ContentQuery.Toml
