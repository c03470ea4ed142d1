import ContentQuery.Proofs.JsonNumeral

/-!
# ContentQuery.Proofs.JsonFaults

Where a text gives out as JSON for another cause than its grammar: at an integer of too many digits,
or where values are nested too deep. The place is described by the text alone, with what is read
before it: the items with a comma behind each of them, and the name of a field.
-/

namespace ContentQuery.Json

/-! ## Long integers -/

/-- Whether an integer ends before a text: neither another digit comes first, nor a fraction, nor a
power of ten. -/
structure EndsInteger (s : Text) : Prop where
  digits : s.EndsDigits
  fraction : ∀ later : Text, s = ('.' : CodePoint) :: later → later.EndsDigits
  power : ∀ mark (later : Text), s = mark :: later → mark = 'e' ∨ mark = 'E' → later.EndsDigits
  signedPower : ∀ mark sign (later : Text), s = mark :: sign :: later → mark = 'e' ∨ mark = 'E' →
    sign = '-' ∨ sign = '+' → later.EndsDigits

/-- Whether a text begins with an integer that has more digits than are converted, with its sign. -/
def BeginsLongInteger (s : Text) : Prop :=
  ∃ negative digits rest, s = signText negative ++ (digits ++ rest) ∧ IsWhole digits ∧
    maxDigits < digits.length ∧ EndsInteger rest

theorem endsDigits_nil : Text.EndsDigits [] := fun _ h => absurd h (by simp)

theorem endsDigits_cons_iff {c : CodePoint} {s : Text} :
    Text.EndsDigits (c :: s) ↔ c.isDigit = false := by
  simp [Text.EndsDigits]

/-- The run of digits at the front is empty exactly if the text does not begin with a digit. -/
theorem takeWhile_isDigit_eq_nil_iff {s : Text} :
    s.takeWhile CodePoint.isDigit = [] ↔ s.EndsDigits := by
  cases s with
  | nil => simp [endsDigits_nil]
  | cons c s => cases hc : c.isDigit <;> simp [endsDigits_cons_iff, hc]

/-- Behind digits there is no digit. -/
theorem endsDigits_dropWhile (s : Text) :
    Text.EndsDigits (s.dropWhile CodePoint.isDigit) := by
  intro c hc
  have hne : s.dropWhile CodePoint.isDigit ≠ [] := by
    intro hnil
    rw [hnil] at hc
    contradiction
  have hhead := List.head_dropWhile_not CodePoint.isDigit hne
  rw [List.head?_eq_some_head hne, Option.mem_some_iff] at hc
  rwa [← hc]

/-- There is no fraction exactly if no digit follows a point at the front. -/
theorem splitFraction_fst_eq_nil_iff {s : Text} : (splitFraction s).1 = [] ↔
    ∀ later : Text, s = ('.' : CodePoint) :: later → later.EndsDigits := by
  cases s with
  | nil => simp [splitFraction]
  | cons c s =>
      by_cases hc : c = ('.' : CodePoint)
      · subst hc
        simp only [List.cons.injEq, true_and, forall_eq', ← takeWhile_isDigit_eq_nil_iff]
        cases hdigits : s.takeWhile CodePoint.isDigit <;> simp [splitFraction, hdigits]
      · simp [splitFraction, hc]

/-- Where no fraction comes first nothing is taken off. -/
theorem splitFraction_of_fst_eq_nil {s : Text} (h : (splitFraction s).1 = []) :
    splitFraction s = ([], s) := by
  cases s with
  | nil => rfl
  | cons c s =>
      rw [splitFraction] at h ⊢
      split at h
      · next hdigits =>
          rw [Bool.and_eq_true, Bool.not_eq_true', List.isEmpty_eq_false_iff] at hdigits
          exact absurd h hdigits.2
      · next hdigits => rw [if_neg hdigits]

/-- There is no exponent exactly if no digit follows a mark and a sign at the front. -/
theorem splitExponent_fst_eq_none_iff {s : Text} : (splitExponent s).1 = none ↔
    ∀ mark (later : Text), s = mark :: later → mark = 'e' ∨ mark = 'E' →
      (splitSign later).2.EndsDigits := by
  cases s with
  | nil => simp [splitExponent]
  | cons c s =>
      simp only [List.cons.injEq, and_imp, forall_apply_eq_imp_iff, forall_eq',
        ← takeWhile_isDigit_eq_nil_iff]
      by_cases hc : c = 'e' ∨ c = 'E'
      · cases hdigits : (splitSign s).2.takeWhile CodePoint.isDigit <;>
          simp [splitExponent, hc, hdigits]
      · simp [splitExponent, hc]

/-- No digit follows a sign at the front exactly if none is there, with or without it. -/
theorem endsDigits_splitSign_iff {s : Text} : (splitSign s).2.EndsDigits ↔ s.EndsDigits ∧
    ∀ sign (later : Text), s = sign :: later → sign = '-' ∨ sign = '+' → later.EndsDigits := by
  cases s with
  | nil => simp [splitSign, endsDigits_nil]
  | cons c s =>
      simp only [List.cons.injEq, and_imp, forall_apply_eq_imp_iff, forall_eq']
      by_cases hsign : c = '-' ∨ c = '+'
      · have hsplit : (splitSign (c :: s)).2 = s := by
          rcases hsign with rfl | rfl <;> rfl
        have hdigit : c.isDigit = false := by
          rcases hsign with rfl | rfl <;> rfl
        simp [hsplit, endsDigits_cons_iff, hdigit, hsign]
      · obtain ⟨hminus, hplus⟩ := not_or.mp hsign
        simp [splitSign, hminus, hplus]

/-- An integer ends where neither a fraction nor a power of ten is split off. -/
theorem endsInteger_iff {s : Text} : EndsInteger s ↔
    s.EndsDigits ∧ (splitFraction s).1 = [] ∧ (splitExponent s).1 = none := by
  simp only [splitFraction_fst_eq_nil_iff, splitExponent_fst_eq_none_iff, endsDigits_splitSign_iff]
  constructor
  · intro h
    refine ⟨h.digits, h.fraction, fun mark later hs hmark => ⟨h.power mark later hs hmark, ?_⟩⟩
    rintro sign last rfl hsign
    exact h.signedPower mark sign last hs hmark hsign
  · rintro ⟨hdigits, hfraction, hpower⟩
    exact ⟨hdigits, hfraction, fun mark later hs hmark => (hpower mark later hs hmark).1,
      fun mark sign later hs hmark hsign => (hpower mark _ hs hmark).2 sign later rfl hsign⟩

/-- An integer is refused exactly if it has too many digits. -/
theorem integer_file_eq_error_iff {negative : Bool} {digits : Text} {e : ReadError} :
    integer .file negative digits = .error e ↔ e = .longInteger ∧ maxDigits < digits.length := by
  rw [integer]
  split
  · next hlength => simp [Nat.not_lt.mpr hlength]
  · next hlength => simp [Dialect.file, Nat.lt_of_not_le hlength, eq_comm]

/-- Behind a whole part of more than one digit there is no digit. -/
theorem splitWhole_ends {s whole rest : Text} (h : splitWhole s = some (whole, rest))
    (hlong : 1 < whole.length) : rest.EndsDigits := by
  cases s with
  | nil => contradiction
  | cons c s =>
      rw [splitWhole] at h
      split at h
      · obtain ⟨rfl, rfl⟩ := Prod.mk.inj (Option.some.inj h)
        contradiction
      · split at h
        · obtain ⟨rfl, rfl⟩ := Prod.mk.inj (Option.some.inj h)
          exact endsDigits_dropWhile s
        · contradiction

/-- A number without a sign is refused for its length exactly if it is an integer of too many
digits. -/
theorem readUnsigned_eq_error_iff {negative : Bool} {s : Text} {e : ReadError}
    (he : e ≠ .malformed) : readUnsigned .file negative s = .error e ↔ e = .longInteger ∧
      ∃ digits rest, s = digits ++ rest ∧ IsWhole digits ∧ maxDigits < digits.length ∧
        EndsInteger rest := by
  constructor
  · intro h
    unfold readUnsigned at h
    split at h
    · exact absurd (Except.error.inj h).symm he
    · next whole rest hwhole =>
        simp only at h
        split at h
        · next hinteger =>
            rw [Bool.and_eq_true, List.isEmpty_iff, Option.isNone_iff_eq_none] at hinteger
            obtain ⟨hfraction, hexponent⟩ := hinteger
            rw [splitFraction_of_fst_eq_nil hfraction] at hexponent
            obtain ⟨rfl, hlong⟩ := integer_file_eq_error_iff.mp (map_eq_error_iff.mp h)
            obtain ⟨hdigits, hs⟩ := splitWhole_eq_some hwhole
            have hmany : 1 < whole.length := Nat.lt_trans (by decide) hlong
            exact ⟨rfl, whole, rest, hs.symm, hdigits, hlong, endsInteger_iff.mpr
              ⟨splitWhole_ends hwhole hmany, hfraction, hexponent⟩⟩
        · contradiction
  · rintro ⟨rfl, digits, rest, rfl, hwhole, hlong, hrest⟩
    obtain ⟨hends, hfraction, hexponent⟩ := endsInteger_iff.mp hrest
    have hinteger : integer .file negative digits = .error .longInteger :=
      integer_file_eq_error_iff.mpr ⟨rfl, hlong⟩
    simp only [readUnsigned, splitWhole_append hwhole hends,
      splitFraction_of_fst_eq_nil hfraction, hexponent, hinteger]
    rfl

/-! ## Scalars -/

/-- A string is refused only for its grammar. -/
theorem readPieces_eq_error {done : List Piece} {s : Text} {e : ReadError}
    (h : readPieces done s = .error e) : e = .malformed := by
  fun_induction readPieces done s with
  | case2 => contradiction
  | case4 done c rest _ _ _ ih => exact ih h
  | case6 done c _ _ _ x y z w rest n _ ih => exact ih h
  | case9 done c _ _ _ e' rest _ d _ ih => exact ih h
  | _ => exact (Except.error.inj h).symm

/-- A string literal is refused for its grammar only. -/
theorem readString_eq_error {s : Text} {e : ReadError} (h : readString s = .error e) :
    e = .malformed := by
  rw [readString, bind_eq_error_iff] at h
  rcases h with h | ⟨_, -, h⟩
  · exact readPieces_eq_error h
  · contradiction

/-- A number is refused, for another cause than its grammar, only as an integer of too many
digits. -/
theorem readNumber_eq_error {s : Text} {e : ReadError} (he : e ≠ .malformed)
    (h : readNumber .file s = .error e) : e = .longInteger ∧ BeginsLongInteger s := by
  cases s with
  | nil => exact absurd (Except.error.inj h).symm he
  | cons c s =>
      rw [readNumber] at h
      split at h
      · next hminus =>
          obtain ⟨rfl, digits, rest, rfl, hlong⟩ := (readUnsigned_eq_error_iff he).mp h
          exact ⟨rfl, true, digits, rest, by rw [hminus]; rfl, hlong⟩
      · obtain ⟨rfl, digits, rest, hs, hlong⟩ := (readUnsigned_eq_error_iff he).mp h
        exact ⟨rfl, false, digits, rest, hs, hlong⟩

/-- A scalar is refused for another cause than its grammar exactly if it is an integer of too many
digits. -/
theorem readScalar_eq_error_iff {s : Text} {e : ReadError} (he : e ≠ .malformed) :
    readScalar .file s = .error e ↔ e = .longInteger ∧ BeginsLongInteger s := by
  constructor
  · intro h
    cases s with
    | nil => exact absurd (Except.error.inj h).symm he
    | cons c s =>
        rw [readScalar] at h
        split at h
        · exact absurd (readString_eq_error (map_eq_error_iff.mp h)) he
        · split at h
          · contradiction
          · exact readNumber_eq_error he h
  · rintro ⟨rfl, negative, digits, rest, rfl, hwhole, hlong, hrest⟩
    have hne : digits ≠ [] := List.ne_nil_of_length_pos (Nat.zero_lt_of_lt hlong)
    rw [readScalar_sign .file negative (beginsDigits_append hne hwhole.digits rest),
      readUnsigned_eq_error_iff he]
    exact ⟨rfl, digits, rest, rfl, hwhole, hlong, hrest⟩

/-- A long integer begins with none of the marks of arrays and objects. -/
theorem BeginsLongInteger.exists_cons {s : Text} (h : BeginsLongInteger s) :
    ∃ c rest, s = c :: rest ∧ c ≠ '[' ∧ c ≠ '{' := by
  obtain ⟨negative, digits, rest, rfl, hwhole, hlong, -⟩ := h
  cases negative with
  | true => exact ⟨_, _, rfl, by decide, by decide⟩
  | false =>
      cases digits with
      | nil => contradiction
      | cons d digits =>
          have hd := hwhole.digits d List.mem_cons_self
          refine ⟨d, digits ++ rest, rfl, ?_, ?_⟩ <;> rintro rfl <;> contradiction

/-! ## What is read before the place -/

/-- Whether a step of reading takes a beginning of the text. -/
def TakesFront {α : Type} (item : Read α) : Prop := Yields (fun _ => True) item fun _ => True

theorem TakesFront.length_le {α : Type} {item : Read α} (h : TakesFront item) {s rest : Text}
    {value : α} (hread : item s = .ok (value, rest)) : rest.length ≤ s.length :=
  (h s value rest trivial hread).1.length_le

theorem Yields.takesFront {α : Type} {item : Read α} {good : α → Prop}
    (h : Yields (fun _ => True) item good) : TakesFront item :=
  fun s value rest hs hread => ⟨(h s value rest hs hread).1, trivial⟩

theorem isKept_true : IsKept fun _ => True := fun _ _ _ _ => trivial

/-- A string is a beginning of the text. -/
theorem takesFront_readString : TakesFront readString :=
  fun _ _ _ _ h => ⟨readString_suffix h, trivial⟩

/-- A value that is no array and no object is a beginning of the text. -/
theorem takesFront_readScalar (dialect : Dialect) : TakesFront (readScalar dialect) := by
  intro s value last _ h
  cases s with
  | nil => contradiction
  | cons c s =>
      rw [readScalar] at h
      split at h
      · obtain ⟨⟨text, rest⟩, hread, heq⟩ := map_eq_ok_iff.mp h
        obtain ⟨rfl, rfl⟩ := Prod.mk.inj heq
        exact ⟨(readString_suffix hread).trans (List.suffix_cons c s), trivial⟩
      · split at h
        · obtain ⟨rfl, rfl⟩ := Prod.mk.inj (Except.ok.inj h)
          exact ⟨List.drop_suffix _ _, trivial⟩
        · rw [readNumber] at h
          split at h
          · exact ⟨(readUnsigned_suffix h).trans (List.suffix_cons c s), trivial⟩
          · exact ⟨readUnsigned_suffix h, trivial⟩

section Items

variable {α : Type} {item : Read α}

/-- From a place where an item is expected to the next such place: an item is read, and a comma
follows. -/
def NextItem (item : Read α) (s next : Text) : Prop :=
  ∃ value after later, item s = .ok (value, after) ∧
    skipSpace after = (',' : CodePoint) :: later ∧ next = skipSpace later

/-- The comma is taken off, so less is left for the items behind it. -/
theorem NextItem.length_lt (hitem : TakesFront item) {s next : Text} (h : NextItem item s next) :
    next.length < s.length := by
  obtain ⟨value, after, later, hvalue, hcomma, rfl⟩ := h
  have hafter := hitem.length_le hvalue
  have hskip := (skipSpace_suffix after).length_le
  have hbegin := (skipSpace_suffix later).length_le
  rw [hcomma, List.length_cons] at hskip
  omega

/-- Items fail for another cause than the grammar exactly if one of them does, after any number of
others. -/
theorem readItems_eq_error_iff (hitem : TakesFront item) (hnil : item [] = .error .malformed)
    {close : CodePoint} (hclose : (',' : CodePoint) ≠ close) {e : ReadError} (he : e ≠ .malformed)
    {limit : Nat} {s : Text} (hlimit : s.length ≤ limit) :
    readItems item close limit s = .error e ↔
      ∃ last, Relation.ReflTransGen (NextItem item) s last ∧ item last = .error e := by
  induction limit generalizing s with
  | zero =>
      obtain rfl := List.eq_nil_of_length_eq_zero (Nat.le_zero.mp hlimit)
      rw [exists_reflTransGen_iff]
      simp [readItems, NextItem, hnil, he.symm]
  | succ limit ih =>
      rw [readItems, bind_eq_error_iff, exists_reflTransGen_iff]
      apply or_congr_right
      constructor
      · rintro ⟨⟨value, after⟩, hvalue, h⟩
        simp only at h
        split at h
        · exact absurd (Except.error.inj h).symm he
        · next c later hlater =>
            split at h
            · contradiction
            · split at h
              · next hcomma =>
                  rcases bind_eq_error_iff.mp h with h | ⟨_, -, h⟩
                  · have hstep : NextItem item s (skipSpace later) :=
                      ⟨value, after, later, hvalue, by rw [hlater, hcomma], rfl⟩
                    have hshorter := hstep.length_lt hitem
                    exact ⟨_, hstep, (ih (by omega)).mp h⟩
                  · contradiction
              · exact absurd (Except.error.inj h).symm he
      · rintro ⟨next, hstep, h⟩
        have hshorter := hstep.length_lt hitem
        obtain ⟨value, after, later, hvalue, hcomma, rfl⟩ := hstep
        refine ⟨(value, after), hvalue, ?_⟩
        simp only [hcomma, if_neg hclose, if_true]
        exact bind_eq_error_iff.mpr (.inl ((ih (by omega)).mpr h))

/-- Items between two marks give out exactly if one does that is reached by reading those before
it. -/
theorem readEnclosed_eq_error_iff (hitem : TakesFront item) (hnil : item [] = .error .malformed)
    {close : CodePoint} (hmark : ∀ rest, item (close :: rest) = .error .malformed)
    (hclose : (',' : CodePoint) ≠ close) {e : ReadError} (he : e ≠ .malformed) {s : Text} :
    readEnclosed item close s = .error e ↔
      ∃ last, Relation.ReflTransGen (NextItem item) (skipSpace s) last ∧ item last = .error e := by
  rw [readEnclosed]
  split
  · next hempty =>
      rw [hempty, exists_reflTransGen_iff]
      simp [NextItem, hnil, he.symm]
  · next c rest hrest =>
      rw [hrest]
      split
      · next hc =>
          rw [hc, exists_reflTransGen_iff]
          simp [NextItem, hmark, he.symm]
      · exact readItems_eq_error_iff hitem hnil hclose he (Nat.le_refl _)

/-- What stands where the value of a field is expected: behind a name and a colon. -/
def AfterName (s value : Text) : Prop :=
  ∃ literal name after later, s = ('"' : CodePoint) :: literal ∧
    readString literal = .ok (name, after) ∧ skipSpace after = (':' : CodePoint) :: later ∧
    value = skipSpace later

/-- A field fails for another cause than the grammar exactly if its value does. -/
theorem readField_eq_error_iff {e : ReadError} (he : e ≠ .malformed) {s : Text} :
    readField item s = .error e ↔ ∃ value, AfterName s value ∧ item value = .error e := by
  constructor
  · intro h
    cases s with
    | nil => exact absurd (Except.error.inj h).symm he
    | cons c s =>
        rw [readField] at h
        split at h
        · next hquote =>
            rcases bind_eq_error_iff.mp h with h | ⟨⟨name, after⟩, hname, h⟩
            · exact absurd (readString_eq_error h) he
            · simp only at h
              split at h
              · exact absurd (Except.error.inj h).symm he
              · next d later hlater =>
                  split at h
                  · next hcolon =>
                      rw [hcolon] at hlater
                      rcases bind_eq_error_iff.mp h with h | ⟨_, -, h⟩
                      · exact ⟨_, ⟨s, name, after, later, by rw [hquote], hname, hlater, rfl⟩, h⟩
                      · contradiction
                  · exact absurd (Except.error.inj h).symm he
        · exact absurd (Except.error.inj h).symm he
  · rintro ⟨value, ⟨literal, name, after, later, rfl, hname, hlater, rfl⟩, h⟩
    rw [readField, if_pos rfl, bind_eq_error_iff]
    refine .inr ⟨(name, after), hname, ?_⟩
    simp only [hlater, if_true]
    exact bind_eq_error_iff.mpr (.inl h)

end Items

/-! ## Values -/

theorem readValue_nil (dialect : Dialect) (room : Nat) :
    readValue dialect room [] = .error .malformed := by
  cases room <;> rfl

theorem readValue_closing (dialect : Dialect) (room : Nat) (rest : Text) :
    readValue dialect room ((']' : CodePoint) :: rest) = .error .malformed := by
  have hmark : isMark ']' = true := rfl
  cases room <;> exact readScalar_mark dialect hmark rest

/-- A field is a beginning of the text if its value is. -/
theorem takesFront_readField {item : Read Json} (h : TakesFront item) :
    TakesFront (readField item) :=
  (readField_yields isKept_true takesFront_readString h).takesFront

/-- A value is a beginning of the text. -/
theorem takesFront_readValue (dialect : Dialect) (room : Nat) :
    TakesFront (readValue dialect room) := by
  induction room with
  | zero =>
      intro s value last hs h
      cases s with
      | nil => contradiction
      | cons c s =>
          rw [readValue] at h
          split at h
          · contradiction
          · exact takesFront_readScalar dialect _ value last hs h
  | succ room ih =>
      intro s value last hs h
      cases s with
      | nil => contradiction
      | cons c s =>
          have hsuffix := List.suffix_cons c s
          rw [readValue] at h
          split at h
          · obtain ⟨⟨items, rest⟩, hitems, heq⟩ := map_eq_ok_iff.mp h
            obtain ⟨rfl, rfl⟩ := Prod.mk.inj heq
            have hread := readEnclosed_yields isKept_true ih ']' s items rest trivial hitems
            exact ⟨hread.1.trans hsuffix, trivial⟩
          · split at h
            · obtain ⟨⟨fields, rest⟩, hfields, heq⟩ := map_eq_ok_iff.mp h
              obtain ⟨rfl, rfl⟩ := Prod.mk.inj heq
              have hread := readEnclosed_yields isKept_true (takesFront_readField ih) '}' s fields
                rest trivial hfields
              exact ⟨hread.1.trans hsuffix, trivial⟩
            · exact takesFront_readScalar dialect _ value last hs h

/-- Where a value gives out for another cause than its grammar, with room for a number of arrays
and objects around each other: at an integer of too many digits, at a mark that opens one array or
object more than there is room for, or at such a place in an item of an array or in a field of an
object. -/
inductive GivesOut : Nat → Text → ReadError → Prop
  | longInteger {room : Nat} {s : Text} : BeginsLongInteger s → GivesOut room s .longInteger
  | tooDeep {c : CodePoint} {rest : Text} : c = '[' ∨ c = '{' → GivesOut 0 (c :: rest) .tooDeep
  | item {room : Nat} {rest last : Text} {e : ReadError} :
      Relation.ReflTransGen (NextItem (readValue .file room)) (skipSpace rest) last →
      GivesOut room last e → GivesOut (room + 1) (('[' : CodePoint) :: rest) e
  | field {room : Nat} {rest last value : Text} {e : ReadError} :
      Relation.ReflTransGen (NextItem (readField (readValue .file room))) (skipSpace rest) last →
      AfterName last value → GivesOut room value e →
      GivesOut (room + 1) (('{' : CodePoint) :: rest) e

/-- To give out is to fail for another cause than the grammar. -/
theorem GivesOut.ne_malformed {room : Nat} {s : Text} {e : ReadError} (h : GivesOut room s e) :
    e ≠ .malformed := by
  induction h with
  | longInteger => simp
  | tooDeep => simp
  | item _ _ ih => exact ih
  | field _ _ _ ih => exact ih

theorem not_givesOut_nil {room : Nat} {e : ReadError} : ¬ GivesOut room [] e := by
  intro h
  cases h with
  | longInteger h =>
      obtain ⟨c, tail, heq, -⟩ := h.exists_cons
      contradiction

/-- Without a mark of an array or an object in front a value gives out like a scalar. -/
theorem givesOut_iff_of_ne {room : Nat} {c : CodePoint} {rest : Text} {e : ReadError}
    (hbracket : c ≠ '[') (hbrace : c ≠ '{') :
    GivesOut room (c :: rest) e ↔ e = .longInteger ∧ BeginsLongInteger (c :: rest) := by
  constructor
  · intro h
    cases h with
    | longInteger h => exact ⟨rfl, h⟩
    | tooDeep h => exact absurd h (not_or.mpr ⟨hbracket, hbrace⟩)
    | item => exact absurd rfl hbracket
    | field => exact absurd rfl hbrace
  · rintro ⟨rfl, h⟩
    exact .longInteger h

/-- Without any room, a mark that opens an array or an object is where a value gives out. -/
theorem givesOut_zero_iff {c : CodePoint} {rest : Text} {e : ReadError}
    (hmark : c = '[' ∨ c = '{') :
    GivesOut 0 (c :: rest) e ↔ e = .tooDeep := by
  constructor
  · intro h
    cases h with
    | longInteger h =>
        obtain ⟨d, tail, heq, hbracket, hbrace⟩ := h.exists_cons
        obtain ⟨rfl, -⟩ := List.cons.inj heq
        exact absurd hmark (not_or.mpr ⟨hbracket, hbrace⟩)
    | tooDeep => rfl
  · rintro rfl
    exact .tooDeep hmark

/-- An array gives out exactly where an item does that is reached by reading those before it. -/
theorem givesOut_bracket_iff {room : Nat} {rest : Text} {e : ReadError} :
    GivesOut (room + 1) (('[' : CodePoint) :: rest) e ↔
      ∃ last, Relation.ReflTransGen (NextItem (readValue .file room)) (skipSpace rest) last ∧
        GivesOut room last e := by
  constructor
  · intro h
    cases h with
    | longInteger h =>
        obtain ⟨c, tail, heq, hc, -⟩ := h.exists_cons
        exact absurd (List.cons.inj heq).1.symm hc
    | item hitems h => exact ⟨_, hitems, h⟩
  · rintro ⟨last, hitems, h⟩
    exact .item hitems h

/-- An object gives out exactly where the value of a field does that is reached by reading those
before it. -/
theorem givesOut_brace_iff {room : Nat} {rest : Text} {e : ReadError} :
    GivesOut (room + 1) (('{' : CodePoint) :: rest) e ↔
      ∃ last,
        Relation.ReflTransGen (NextItem (readField (readValue .file room))) (skipSpace rest) last ∧
        ∃ value, AfterName last value ∧ GivesOut room value e := by
  constructor
  · intro h
    cases h with
    | longInteger h =>
        obtain ⟨c, tail, heq, -, hc⟩ := h.exists_cons
        exact absurd (List.cons.inj heq).1.symm hc
    | field hitems hname h => exact ⟨_, hitems, _, hname, h⟩
  · rintro ⟨last, hitems, value, hname, h⟩
    exact .field hitems hname h

/-- Reading a value fails for another cause than its grammar exactly where the text gives out. -/
theorem readValue_eq_error_iff {room : Nat} {s : Text} {e : ReadError} (he : e ≠ .malformed) :
    readValue .file room s = .error e ↔ GivesOut room s e := by
  induction room generalizing s with
  | zero =>
      cases s with
      | nil => simp [readValue_nil, not_givesOut_nil, he.symm]
      | cons c s =>
          by_cases hmark : c = '[' ∨ c = '{'
          · rw [readValue, if_pos (by simpa using hmark), givesOut_zero_iff hmark,
              Except.error.injEq, eq_comm]
          · obtain ⟨hbracket, hbrace⟩ := not_or.mp hmark
            rw [readValue, if_neg (by simp [hbracket, hbrace]), readScalar_eq_error_iff he,
              givesOut_iff_of_ne hbracket hbrace]
  | succ room ih =>
      cases s with
      | nil => simp [readValue_nil, not_givesOut_nil, he.symm]
      | cons c s =>
          by_cases hbracket : c = '['
          · subst hbracket
            rw [readValue, if_pos rfl, map_eq_error_iff, givesOut_bracket_iff,
              readEnclosed_eq_error_iff (takesFront_readValue .file room) (readValue_nil .file room)
                (readValue_closing .file room) (by decide) he]
            simp only [ih]
          · by_cases hbrace : c = '{'
            · subst hbrace
              rw [readValue, if_neg hbracket, if_pos rfl, map_eq_error_iff, givesOut_brace_iff,
                readEnclosed_eq_error_iff (takesFront_readField (takesFront_readValue .file room))
                  rfl (fun _ => rfl) (by decide) he]
              simp only [readField_eq_error_iff he, ih]
            · rw [readValue, if_neg hbracket, if_neg hbrace, readScalar_eq_error_iff he,
                givesOut_iff_of_ne hbracket hbrace]

/-- A whole text is refused for another cause than its grammar exactly if it gives out behind the
white space at its front. -/
theorem read_eq_error_iff {room : Nat} {s : Text} {e : ReadError} :
    read .file room s = .error e ∧ e ≠ .malformed ↔ GivesOut room (skipSpace s) e := by
  constructor
  · rintro ⟨h, he⟩
    rw [read, bind_eq_error_iff] at h
    rcases h with h | ⟨⟨value, rest⟩, -, h⟩
    · exact (readValue_eq_error_iff he).mp h
    · simp only at h
      split at h
      · contradiction
      · exact absurd (Except.error.inj h).symm he
  · intro h
    have he := h.ne_malformed
    exact ⟨bind_eq_error_iff.mpr (.inl ((readValue_eq_error_iff he).mpr h)), he⟩

end ContentQuery.Json
