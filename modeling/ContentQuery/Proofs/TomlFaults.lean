import ContentQuery.Proofs.JsonFaults
import ContentQuery.Proofs.TomlRemainder

/-!
# ContentQuery.Proofs.TomlFaults

Where a text gives out as TOML for another cause than its grammar: at an integer of too many digits,
or where values are nested too deep. As in JSON the place is described by the text alone, with what
is read before it: lines, the keys of pairs, and items with a comma behind each of them.
-/

namespace ContentQuery.Toml

variable {α : Type} {s rest tail : Text} {c : CodePoint} {e : ReadError} {nesting : Nat}

/-! ## Runs of digits -/

/-- What can follow a digit of a number: more digits, each with an underscore before it or none. -/
inductive IsTail : Text → Prop
  | nil : IsTail []
  | digit {c : CodePoint} {rest : Text} : c.isDigit = true → IsTail rest → IsTail (c :: rest)
  | mark {c : CodePoint} {rest : Text} : c.isDigit = true → IsTail rest →
      IsTail (('_' : CodePoint) :: c :: rest)

/-- Whether a run of digits ends before a text. -/
structure EndsRun (s : Text) : Prop where
  digits : s.EndsDigits
  underscore : ∀ later : Text, s = ('_' : CodePoint) :: later → later.EndsDigits

/-- Whether an integer ends before a text: no run of digits goes on, and neither a fraction nor a
power of ten comes first. -/
structure EndsInteger (s : Text) : Prop extends Json.EndsInteger s where
  underscore : ∀ later : Text, s = ('_' : CodePoint) :: later → later.EndsDigits

/-- Whether a text is the sign of a number, or empty. -/
def IsSign (sign : Text) : Prop :=
  sign = [] ∨ sign = [('-' : CodePoint)] ∨ sign = [('+' : CodePoint)]

/-- Whether a text begins with an integer that has more digits than are converted, with its sign. -/
def BeginsLongInteger (s : Text) : Prop :=
  ∃ (sign : Text) (first : CodePoint) (tail rest : Text), s = sign ++ first :: (tail ++ rest) ∧
    IsSign sign ∧ first.isDigit = true ∧ first ≠ '0' ∧ IsTail tail ∧
    maxDigits ≤ (tail.filter CodePoint.isDigit).length ∧ EndsInteger rest

/-- Behind the first digit of a run there are digits and underscores alone. -/
theorem isDigit_or_of_mem_tail (h : IsTail tail) : ∀ c ∈ tail, c.isDigit = true ∨ c = '_' := by
  induction h with
  | nil => exact List.forall_mem_nil _
  | digit hc _ ih => exact List.forall_mem_cons.mpr ⟨.inl hc, ih⟩
  | mark hc _ ih =>
      exact List.forall_mem_cons.mpr ⟨.inr rfl, List.forall_mem_cons.mpr ⟨.inl hc, ih⟩⟩

theorem not_isDigit_underscore : CodePoint.isDigit '_' = false := rfl

theorem beginsDigits_iff {s : Text} :
    (s.head?.map CodePoint.isDigit).getD false = true ↔ ¬ s.EndsDigits := by
  cases s with
  | nil => simp [Json.endsDigits_nil]
  | cons c s => cases hc : c.isDigit <;> simp [Json.endsDigits_cons_iff, hc]

theorem digitRun_of_endsRun (h : EndsRun s) : digitRun CodePoint.isDigit s = ([], s) := by
  cases s with
  | nil => rfl
  | cons c s =>
      have hc : c.isDigit = false := Json.endsDigits_cons_iff.mp h.digits
      have hmark : ¬ (decide (c = '_') && (s.head?.map CodePoint.isDigit).getD false) = true := by
        rw [Bool.and_eq_true, decide_eq_true_eq, beginsDigits_iff]
        rintro ⟨rfl, hdigits⟩
        exact hdigits (h.underscore s rfl)
      rw [digitRun, hc, if_neg Bool.false_ne_true, if_neg hmark]

/-- Digits are taken up to where their run ends. -/
theorem digitRun_append (htail : IsTail tail) (hrest : EndsRun rest) :
    digitRun CodePoint.isDigit (tail ++ rest) = (tail.filter CodePoint.isDigit, rest) := by
  induction htail with
  | nil => exact digitRun_of_endsRun hrest
  | @digit c tail hc _ ih =>
      rw [List.cons_append, digitRun, if_pos hc, ih, List.filter_cons_of_pos hc]
  | @mark c tail hc _ ih =>
      have hnext : (decide (('_' : CodePoint) = '_') &&
          ((c :: (tail ++ rest)).head?.map CodePoint.isDigit).getD false) = true := by
        simp [hc]
      rw [List.cons_append, List.cons_append, digitRun, not_isDigit_underscore,
        if_neg Bool.false_ne_true, if_pos hnext, digitRun, if_pos hc, ih,
        List.filter_cons_of_neg (by rw [not_isDigit_underscore]; decide),
        List.filter_cons_of_pos hc]

/-- What is taken is such a run. -/
theorem exists_tail_of_digitRun (s : Text) : ∃ tail, s = tail ++ (digitRun CodePoint.isDigit s).2 ∧
    IsTail tail ∧ (digitRun CodePoint.isDigit s).1 = tail.filter CodePoint.isDigit ∧
    EndsRun (digitRun CodePoint.isDigit s).2 := by
  fun_induction digitRun CodePoint.isDigit s with
  | case1 => exact ⟨[], rfl, .nil, rfl, Json.endsDigits_nil, fun _ h => by contradiction⟩
  | case2 c s hc digits after hrun ih =>
      rw [hrun] at ih
      obtain ⟨tail, hs, htail, hdigits, hends⟩ := ih
      refine ⟨c :: tail, congrArg _ hs, .digit hc htail, ?_, hends⟩
      rw [List.filter_cons_of_pos hc]
      exact congrArg _ hdigits
  | case3 c s hc hmark ih =>
      rw [Bool.and_eq_true, decide_eq_true_eq, beginsDigits_iff] at hmark
      obtain ⟨rfl, hbegins⟩ := hmark
      obtain ⟨tail, hs, htail, hdigits, hends⟩ := ih
      refine ⟨'_' :: tail, congrArg _ hs, ?_, ?_, hends⟩
      · -- The run behind the underscore begins with a digit.
        cases htail with
        | nil => exact absurd (hs ▸ hends.digits) hbegins
        | digit hd htail => exact .mark hd htail
        | mark hd htail =>
            rw [hs] at hbegins
            exact absurd (Json.endsDigits_cons_iff.mpr not_isDigit_underscore) hbegins
      · rw [hdigits, List.filter_cons_of_neg hc]
  | case4 c s hc hmark =>
      rw [Bool.not_eq_true] at hc
      rw [Bool.and_eq_true, decide_eq_true_eq, beginsDigits_iff, not_and, not_not] at hmark
      refine ⟨[], rfl, .nil, rfl, Json.endsDigits_cons_iff.mpr hc, fun later h => ?_⟩
      obtain ⟨hmarked, rfl⟩ := List.cons.inj h
      exact hmark hmarked

/-! ## Scalars -/

/-- There is no run of digits exactly where no digit is. -/
theorem digitRun?_eq_none_iff : digitRun? CodePoint.isDigit s = none ↔ s.EndsDigits := by
  rw [digitRun?]
  split
  · next hbegins => simp [beginsDigits_iff.mp hbegins]
  · next hends => simpa using not_not.mp (mt beginsDigits_iff.mpr hends)

/-- There is no fraction exactly if no digit follows a point at the front. -/
theorem fraction?_eq_none_iff :
    fraction? s = none ↔ ∀ later : Text, s = ('.' : CodePoint) :: later → later.EndsDigits := by
  simp only [fraction?, Option.bind_eq_bind, Option.bind_eq_none_iff, after?_eq_some_iff,
    digitRun?_eq_none_iff]

/-- A sign is taken as it is in JSON. -/
theorem splitSign_eq (s : Text) : splitSign s = Json.splitSign s := by
  cases s <;> rfl

/-- There is no exponent exactly where there is none in JSON. -/
theorem exponent?_eq_none_iff : exponent? s = none ↔ (Json.splitExponent s).1 = none := by
  rw [Json.splitExponent_fst_eq_none_iff]
  cases s with
  | nil => simp [exponent?]
  | cons c s =>
      simp only [List.cons.injEq, and_imp, forall_apply_eq_imp_iff, forall_eq',
        ← digitRun?_eq_none_iff, ← splitSign_eq]
      by_cases hc : c = 'e' ∨ c = 'E'
      · cases hdigits : digitRun? CodePoint.isDigit (splitSign s).2 <;>
          simp [exponent?, hc, hdigits]
      · simp [exponent?, hc]

/-- An integer ends where its digits do and neither a fraction nor a power of ten is read. -/
theorem endsInteger_iff :
    EndsInteger s ↔ EndsRun s ∧ fraction? s = none ∧ exponent? s = none := by
  have hjson := Json.endsInteger_iff (s := s)
  rw [Json.splitFraction_fst_eq_nil_iff, ← fraction?_eq_none_iff, ← exponent?_eq_none_iff] at hjson
  constructor
  · intro h
    obtain ⟨hdigits, hparts⟩ := hjson.mp h.toEndsInteger
    exact ⟨⟨hdigits, h.underscore⟩, hparts⟩
  · rintro ⟨hrun, hparts⟩
    exact ⟨hjson.mpr ⟨hrun.digits, hparts⟩, hrun.underscore⟩

theorem ne_of_isDigit (hc : c.isDigit = true) {mark : CodePoint} (hmark : mark.isDigit = false) :
    c ≠ mark := ne_of_kind hc hmark

/-- The digits of a number that begins with no zero. -/
theorem whole?_cons (hc : c.isDigit = true) (hzero : c ≠ '0') (htail : IsTail tail)
    (hrest : EndsRun rest) :
    whole? (c :: (tail ++ rest)) = some (c :: tail.filter CodePoint.isDigit, rest) := by
  have hbegins : ((c :: (tail ++ rest)).head?.map CodePoint.isDigit).getD false = true := hc
  rw [whole?, after?_eq_none (by rintro d ⟨⟩; exact hzero)]
  simp only [digitRun?, hbegins, if_true, digitRun, hc, digitRun_append htail hrest]

/-- Several digits are the digits of a number that begins with no zero. -/
theorem exists_of_whole? {whole : Text} (h : whole? s = some (whole, rest))
    (hlong : 1 < whole.length) : ∃ first tail, s = first :: (tail ++ rest) ∧
      whole = first :: tail.filter CodePoint.isDigit ∧ first.isDigit = true ∧ first ≠ '0' ∧
      IsTail tail ∧ EndsRun rest := by
  rw [whole?] at h
  split at h
  · obtain ⟨rfl, -⟩ := Prod.mk.inj (Option.some.inj h)
    contradiction
  · next hzero =>
      rw [digitRun?] at h
      split at h
      · next hbegins =>
          cases s with
          | nil => contradiction
          | cons c s =>
              have hc : c.isDigit = true := hbegins
              have hfirst : c ≠ '0' := by
                rintro rfl
                contradiction
              obtain ⟨tail, hs, htail, hdigits, hends⟩ := exists_tail_of_digitRun s
              rw [Option.some.injEq, digitRun, if_pos hc] at h
              obtain ⟨rfl, rfl⟩ := Prod.mk.inj h
              exact ⟨c, tail, congrArg _ hs, congrArg _ hdigits, hc, hfirst, htail, hends⟩
      · contradiction

/-- The sign that is split off. -/
theorem exists_isSign (s : Text) : ∃ sign, IsSign sign ∧ s = sign ++ (splitSign s).2 := by
  cases s with
  | nil => exact ⟨[], .inl rfl, rfl⟩
  | cons c s =>
      rw [splitSign]
      split
      · next hminus => exact ⟨[c], .inr (.inl (by rw [hminus])), rfl⟩
      · split
        · next hplus => exact ⟨[c], .inr (.inr (by rw [hplus])), rfl⟩
        · exact ⟨[], .inl rfl, rfl⟩

/-- Behind a sign there is the digit that follows it. -/
theorem splitSign_append {sign : Text} (hsign : IsSign sign) (hc : c.isDigit = true) (s : Text) :
    (splitSign (sign ++ c :: s)).2 = c :: s := by
  rcases hsign with rfl | rfl | rfl
  · rw [List.nil_append, splitSign, if_neg (ne_of_isDigit hc rfl), if_neg (ne_of_isDigit hc rfl)]
  · rfl
  · rfl

/-- A number is refused exactly if it is an integer of too many digits. -/
theorem decimal?_eq_error_iff :
    decimal? s = some (.error e) ↔ e = .longInteger ∧ BeginsLongInteger s := by
  simp only [decimal?, Option.bind_eq_bind, Option.bind_eq_some_iff]
  constructor
  · rintro ⟨⟨whole, rest⟩, hwhole, h⟩
    simp only at h
    split at h
    · next hinteger =>
        rw [Bool.and_eq_true, Option.isNone_iff_eq_none, Option.isNone_iff_eq_none] at hinteger
        obtain ⟨hfraction, hexponent⟩ := hinteger
        rw [hfraction] at hexponent
        split at h
        · next hlong =>
            have hmany : 1 < whole.length := Nat.lt_trans (by decide) hlong
            obtain ⟨sign, hsign, hs⟩ := exists_isSign s
            obtain ⟨first, tail, hunsigned, rfl, hfirst, hzero, htail, hends⟩ :=
              exists_of_whole? hwhole hmany
            rw [hunsigned] at hs
            exact ⟨(Except.error.inj (Option.some.inj h)).symm, sign, first, tail, rest, hs, hsign,
              hfirst, hzero, htail, Nat.le_of_lt_succ hlong,
              endsInteger_iff.mpr ⟨hends, hfraction, hexponent⟩⟩
        · cases Option.some.inj h
    · cases Option.some.inj h
  · rintro ⟨rfl, sign, first, tail, rest, rfl, hsign, hfirst, hzero, htail, hlong, hrest⟩
    obtain ⟨hends, hfraction, hexponent⟩ := endsInteger_iff.mp hrest
    refine ⟨(first :: tail.filter CodePoint.isDigit, rest), ?_, ?_⟩
    · rw [splitSign_append hsign hfirst, whole?_cons hfirst hzero htail hends]
    · have hmany : maxDigits < (tail.filter CodePoint.isDigit).length + 1 :=
        Nat.lt_succ_of_le hlong
      simp [hfraction, hexponent, hmany]

section Moments

variable {run after : Text} {count least most k : Nat} {mark : CodePoint}

/-- A number of fewer digits does not reach to the end of a run. -/
theorem after?_of_number?_run (hrun : ∀ c ∈ run, c.isDigit = true ∨ c = '_')
    (hcount : count < run.length) (h : number? count least most (run ++ rest) = some (k, after))
    (hdigit : mark.isDigit = false) (hunderscore : mark ≠ '_') : after? mark after = none := by
  have hafter : after = run.drop count ++ rest := by
    simp only [number?] at h
    split at h
    · obtain ⟨-, rfl⟩ := Prod.mk.inj (Option.some.inj h)
      exact List.drop_append_of_le_length (Nat.le_of_lt hcount)
    · contradiction
  obtain ⟨c, later, hlater⟩ := List.exists_cons_of_length_pos
    (show 0 < (run.drop count).length by rw [List.length_drop]; omega)
  have hc := hrun c (List.mem_of_mem_drop (hlater ▸ List.mem_cons_self))
  rw [hafter, hlater, List.cons_append]
  refine if_neg ?_
  rintro rfl
  rcases hc with hc | hc
  · rw [hdigit] at hc
    contradiction
  · exact hunderscore hc

/-- A long run of digits is neither a date nor a time of day. -/
theorem readMoment?_run (hrun : ∀ c ∈ run, c.isDigit = true ∨ c = '_') (hlong : 4 < run.length)
    (rest : Text) : readMoment? (run ++ rest) = none := by
  have hdate : date? (run ++ rest) = none := by
    unfold date?
    cases hyear : number? 4 0 9999 (run ++ rest) with
    | none => rfl
    | some read =>
        have hmark : after? '-' read.2 = none :=
          after?_of_number?_run hrun hlong hyear rfl (by decide)
        simp [hmark]
  have htime : afterTime? (run ++ rest) = none := by
    unfold afterTime?
    cases hhour : number? 2 0 23 (run ++ rest) with
    | none => rfl
    | some read =>
        have hmark : after? ':' read.2 = none :=
          after?_of_number?_run hrun (by omega) hhour rfl (by decide)
        simp [hmark]
  rw [readMoment?, hdate, htime]
  rfl

end Moments

/-- A long integer is nothing else that would be looked for first: no string, no date or time of
day, and no integer of another base. -/
theorem BeginsLongInteger.not_other (h : BeginsLongInteger s) :
    readString? s = none ∧ readMoment? s = none ∧ based? s = none := by
  obtain ⟨sign, first, tail, rest, rfl, hsign, hfirst, hzero, htail, hlong, -⟩ := h
  have hsigned (mark : CodePoint) (hmark : mark = '-' ∨ mark = '+') (s : Text) :
      readString? (mark :: s) = none ∧ readMoment? (mark :: s) = none ∧
        based? (mark :: s) = none := by
    have hdigit : mark.isDigit = false := by rcases hmark with rfl | rfl <;> rfl
    refine ⟨?_, readMoment?_cons_eq_none hdigit s, ?_⟩
    · rcases hmark with rfl | rfl <;> rfl
    · rcases hmark with rfl | rfl <;> rfl
  rcases hsign with rfl | rfl | rfl
  · have hrun : ∀ c ∈ first :: tail, c.isDigit = true ∨ c = '_' :=
      List.forall_mem_cons.mpr ⟨.inl hfirst, isDigit_or_of_mem_tail htail⟩
    have hlength : 4 < (first :: tail).length := by
      have hfilter := List.length_filter_le CodePoint.isDigit tail
      have hmax : 4 ≤ maxDigits := by decide
      rw [List.length_cons]
      omega
    refine ⟨?_, readMoment?_run hrun hlength rest, ?_⟩
    · rw [List.nil_append, readString?, if_neg (ne_of_isDigit hfirst rfl),
        if_neg (ne_of_isDigit hfirst rfl)]
    · rw [List.nil_append, based?, after?_eq_none (by rintro d ⟨⟩; exact hzero)]
      rfl
  · exact hsigned '-' (.inl rfl) _
  · exact hsigned '+' (.inr rfl) _

/-- A scalar is refused for another cause than its grammar exactly if it is an integer of too many
digits. -/
theorem readScalar_eq_error_iff (he : e ≠ .malformed) :
    readScalar s = .error e ↔ e = .longInteger ∧ BeginsLongInteger s := by
  rw [← decimal?_eq_error_iff]
  constructor
  · intro h
    rw [readScalar] at h
    split at h
    · next read hread =>
        exact absurd ((within_of_readString? hread).eq_malformed (map_eq_error_iff.mp h)) he
    · split at h
      · next read hread => exact absurd ((within_of_readMoment? hread).eq_malformed h) he
      · split at h
        · contradiction
        · split at h
          · next read hread => rw [hread, h]
          · split at h
            · contradiction
            · exact absurd (Except.error.inj h).symm he
  · intro h
    obtain ⟨hstring, hmoment, hbased⟩ := (decimal?_eq_error_iff.mp h).2.not_other
    rw [readScalar, hstring]
    simp only [hmoment, hbased, h]

/-! ## What is read before the place -/

section Parts

variable {value : Read Value}

/-- What stands where the value of a pair is expected: behind a key and an equals sign. -/
def AfterKey (s value : Text) : Prop :=
  ∃ key after later, readKey s = .ok (key, after) ∧ after = ('=' : CodePoint) :: later ∧
    value = skipSpace later

/-- A pair fails for another cause than the grammar exactly if its value does. -/
theorem readPair_eq_error_iff (he : e ≠ .malformed) :
    readPair value s = .error e ↔ ∃ begins, AfterKey s begins ∧ value begins = .error e := by
  rw [readPair, bind_eq_error_iff]
  constructor
  · rintro (h | ⟨⟨key, after⟩, hkey, h⟩)
    · exact absurd ((within_readKey s).eq_malformed h) he
    · rcases bind_eq_error_iff.mp h with h | ⟨later, hequals, h⟩
      · exact absurd (eq_malformed_of_orMalformed h) he
      · rw [orMalformed_eq_ok_iff, after?_eq_some_iff] at hequals
        rcases bind_eq_error_iff.mp h with h | ⟨_, -, h⟩
        · exact ⟨_, ⟨key, after, later, hkey, hequals, rfl⟩, h⟩
        · contradiction
  · rintro ⟨_, ⟨key, after, later, hkey, hequals, rfl⟩, h⟩
    refine .inr ⟨(key, after), hkey, bind_eq_error_iff.mpr (.inr ⟨later, ?_, ?_⟩)⟩
    · rw [orMalformed_eq_ok_iff, after?_eq_some_iff, hequals]
    · exact bind_eq_error_iff.mpr (.inl h)

/-- A pair leaves no more of the text than there was, if its value does. -/
theorem shortens_readPair (hvalue : Shortens value) : Shortens (readPair value) := by
  intro s pair rest h
  simp only [readPair, bind_eq_ok_iff, orMalformed_eq_ok_iff, after?_eq_some_iff] at h
  obtain ⟨⟨key, after⟩, hkey, later, hequals, ⟨v, last⟩, hread, h⟩ := h
  obtain ⟨-, rfl⟩ := Prod.mk.inj (Except.ok.inj h)
  have hafter := (within_readKey s).length_le hkey
  have hbegin := length_skipSpace_le later
  have hlast := hvalue _ v last hread
  rw [show after = _ from hequals, List.length_cons] at hafter
  simp only at hlast ⊢
  omega

/-- From a place where an item is expected to the next such place: an item is read, and a comma
follows. Line ends and comments may stand before and behind the comma. -/
def NextItem (value : Read Value) (s next : Text) : Prop :=
  ∃ item after later, value s = .ok (item, after) ∧
    skipFiller false after = .ok ((',' : CodePoint) :: later) ∧ skipFiller false later = .ok next

/-- The next item of an array begins further on. -/
theorem NextItem.length_lt (hvalue : Shortens value) {next : Text} (h : NextItem value s next) :
    next.length < s.length := by
  obtain ⟨item, after, later, hitem, hcomma, hnext⟩ := h
  have hafter := hvalue s item after hitem
  have hlater := (skipsWithin_skipFiller false after).length_le hcomma
  have hbegin := (skipsWithin_skipFiller false later).length_le hnext
  rw [List.length_cons] at hlater
  omega

/-- Items fail for another cause than the grammar exactly if one of them does, after any number of
others. -/
theorem readItems_eq_error_iff (hvalue : Shortens value)
    (hmark : ∀ rest, value ((']' : CodePoint) :: rest) = .error .malformed) (he : e ≠ .malformed)
    {limit : Nat} (hlimit : s.length < limit) :
    readItems value limit s = .error e ↔
      ∃ last, Relation.ReflTransGen (NextItem value) s last ∧ value last = .error e := by
  induction limit generalizing s with
  | zero => exact absurd hlimit (Nat.not_lt_zero _)
  | succ limit ih =>
      rw [readItems, exists_reflTransGen_iff]
      split
      · next rest hclose =>
          rw [after?_eq_some_iff] at hclose
          have hreturn : (pure ([], rest) : Except ReadError (List Value × Text)) ≠ .error e :=
            fun h => by contradiction
          simp [hclose, NextItem, hmark, he.symm, hreturn]
      · rw [bind_eq_error_iff]
        apply or_congr_right
        constructor
        · rintro ⟨⟨item, after⟩, hitem, h⟩
          rcases bind_eq_error_iff.mp h with h | ⟨rest, hrest, h⟩
          · exact absurd ((skipsWithin_skipFiller _ _).eq_malformed h) he
          · simp only at h
            split at h
            · next later hcomma =>
                rw [after?_eq_some_iff] at hcomma
                rcases bind_eq_error_iff.mp h with h | ⟨next, hnext, h⟩
                · exact absurd ((skipsWithin_skipFiller _ _).eq_malformed h) he
                · have hstep : NextItem value s next :=
                    ⟨item, after, later, hitem, hcomma ▸ hrest, hnext⟩
                  have hshorter := hstep.length_lt hvalue
                  rcases bind_eq_error_iff.mp h with h | ⟨_, -, h⟩
                  · exact ⟨next, hstep, (ih (by omega)).mp h⟩
                  · contradiction
            · rcases bind_eq_error_iff.mp h with h | ⟨_, -, h⟩
              · exact absurd (eq_malformed_of_orMalformed h) he
              · contradiction
        · rintro ⟨next, hstep, h⟩
          have hshorter := hstep.length_lt hvalue
          obtain ⟨item, after, later, hitem, hcomma, hnext⟩ := hstep
          refine ⟨(item, after), hitem, bind_eq_error_iff.mpr (.inr ⟨_, hcomma, ?_⟩)⟩
          simp only [after?, if_true]
          exact bind_eq_error_iff.mpr
            (.inr ⟨next, hnext, bind_eq_error_iff.mpr (.inl ((ih (by omega)).mpr h))⟩)

/-- The items of an array leave no more of the text than there was, if each of them does. -/
theorem shortens_readItems (hvalue : Shortens value) (limit : Nat) :
    Shortens (readItems value limit) := by
  induction limit with
  | zero =>
      intro s items rest h
      contradiction
  | succ limit ih =>
      intro s items rest h
      rw [readItems] at h
      split at h
      · next after hclose =>
          obtain ⟨-, rfl⟩ := Prod.mk.inj (Except.ok.inj h)
          exact length_le_of_after? hclose
      · simp only [bind_eq_ok_iff] at h
        obtain ⟨⟨item, after⟩, hitem, later, hlater, h⟩ := h
        have hafter := hvalue s item after hitem
        have hfiller := (skipsWithin_skipFiller false after).length_le hlater
        split at h
        · next begins hcomma =>
            simp only [bind_eq_ok_iff] at h
            obtain ⟨next, hnext, ⟨items', last⟩, hread, h⟩ := h
            obtain ⟨-, rfl⟩ := Prod.mk.inj (Except.ok.inj h)
            have hbegins := length_le_of_after? hcomma
            have hskip := (skipsWithin_skipFiller false begins).length_le hnext
            have hlast := ih next items' last hread
            simp only
            omega
        · obtain ⟨last, hclose, h⟩ := bind_eq_ok_iff.mp h
          rw [orMalformed_eq_ok_iff] at hclose
          obtain ⟨-, rfl⟩ := Prod.mk.inj (Except.ok.inj h)
          have hlast := length_le_of_after? hclose
          omega

/-- From a place where a pair is expected to the next such place, with the entries that have been
read so far: a pair is read and added, and a comma follows. -/
def NextPair (value : Read Value) (place next : Entries × Text) : Prop :=
  ∃ key v after later, readPair value place.2 = .ok ((key, v), after) ∧
    insert key.1 key.2 v place.1 = some next.1 ∧ skipSpace after = (',' : CodePoint) :: later ∧
    next.2 = skipSpace later

/-- The next pair of a table begins further on. -/
theorem NextPair.length_lt (hvalue : Shortens value) {place next : Entries × Text}
    (h : NextPair value place next) : next.2.length < place.2.length := by
  obtain ⟨key, v, after, later, hpair, -, hcomma, hnext⟩ := h
  have hafter := shortens_readPair hvalue _ _ _ hpair
  have hskip := length_skipSpace_le after
  have hbegin := length_skipSpace_le later
  rw [hcomma, List.length_cons] at hskip
  rw [hnext]
  omega

/-- Pairs fail for another cause than the grammar exactly if one of them does, after any number of
others. -/
theorem readPairs_eq_error_iff (hvalue : Shortens value) (he : e ≠ .malformed) {limit : Nat}
    {entries : Entries} (hlimit : s.length < limit) :
    readPairs value entries limit s = .error e ↔
      ∃ last, Relation.ReflTransGen (NextPair value) (entries, s) last ∧
        readPair value last.2 = .error e := by
  induction limit generalizing s entries with
  | zero => exact absurd hlimit (Nat.not_lt_zero _)
  | succ limit ih =>
      rw [readPairs, exists_reflTransGen_iff, bind_eq_error_iff]
      apply or_congr_right
      constructor
      · rintro ⟨⟨⟨⟨name, names⟩, v⟩, after⟩, hpair, h⟩
        rcases bind_eq_error_iff.mp h with h | ⟨entries', hinsert, h⟩
        · exact absurd (eq_malformed_of_orMalformed h) he
        · rw [orMalformed_eq_ok_iff] at hinsert
          simp only at h
          split at h
          · next later hcomma =>
              rw [after?_eq_some_iff] at hcomma
              have hstep : NextPair value (entries, s) (entries', skipSpace later) :=
                ⟨(name, names), v, after, later, hpair, hinsert, hcomma, rfl⟩
              have hshorter := hstep.length_lt hvalue
              simp only at hshorter
              exact ⟨_, hstep, (ih (by omega)).mp h⟩
          · rcases bind_eq_error_iff.mp h with h | ⟨_, -, h⟩
            · exact absurd (eq_malformed_of_orMalformed h) he
            · contradiction
      · rintro ⟨⟨entries', next⟩, hstep, h⟩
        have hshorter := hstep.length_lt hvalue
        obtain ⟨⟨name, names⟩, v, after, later, hpair, hinsert, hcomma, hnext⟩ := hstep
        simp only at hshorter hnext
        subst hnext
        refine ⟨_, hpair, bind_eq_error_iff.mpr (.inr ⟨entries', ?_, ?_⟩)⟩
        · exact orMalformed_eq_ok_iff.mpr hinsert
        · simp only [hcomma, after?, if_true]
          exact (ih (by omega)).mpr h

/-- The pairs of a table leave no more of the text than there was, if each value does. -/
theorem shortens_readPairs (hvalue : Shortens value) (limit : Nat) (entries : Entries) :
    Shortens (readPairs value entries limit) := by
  induction limit generalizing entries with
  | zero =>
      intro s found rest h
      contradiction
  | succ limit ih =>
      intro s found rest h
      simp only [readPairs, bind_eq_ok_iff] at h
      obtain ⟨⟨⟨⟨name, names⟩, v⟩, after⟩, hpair, entries', -, h⟩ := h
      have hafter := shortens_readPair hvalue _ _ _ hpair
      have hskip := length_skipSpace_le after
      simp only at h
      split at h
      · next later hcomma =>
          have hlater := length_le_of_after? hcomma
          have hbegin := length_skipSpace_le later
          have hlast := ih entries' _ _ _ h
          omega
      · simp only [bind_eq_ok_iff, orMalformed_eq_ok_iff] at h
        obtain ⟨last, hclose, h⟩ := h
        obtain ⟨-, rfl⟩ := Prod.mk.inj (Except.ok.inj h)
        have hlast := length_le_of_after? hclose
        omega

end Parts

/-! ## Values -/

theorem readValue_nil (nesting : Nat) : readValue nesting [] = .error .malformed := by
  rw [readValue.eq_def]
  split <;> rfl

/-- Where nesting has reached the bound, arrays and inline tables are refused. -/
theorem readValue_of_lt (h : nesting < 3) (c : CodePoint) (s : Text) :
    readValue nesting (c :: s) =
      if c = '[' || c = '\x7b' then .error .tooDeep else readScalar (c :: s) := by
  match nesting, h with
  | 0, _ => rfl
  | 1, _ => rfl
  | 2, _ => rfl

/-- With room for it, an array is read from the first of its items on. -/
theorem readValue_bracket (nesting : Nat) (s : Text) :
    readValue (nesting + 3) (('[' : CodePoint) :: s) = (do
      let begins ← skipFiller false s
      let (items, rest) ← readItems (readValue (nesting + 1)) (begins.length + 1) begins
      return (.array items, rest)) := by
  rw [readValue.eq_def]
  rfl

/-- With room for it, a table is read from the first of its pairs on. -/
theorem readValue_brace (nesting : Nat) (s : Text) :
    readValue (nesting + 3) (('\x7b' : CodePoint) :: s) =
      (match after? '\x7d' (skipSpace s) with
      | some rest => return (.table [], rest)
      | none => do
        let (entries, rest) ← readPairs (readValue nesting) [] (s.length + 1) (skipSpace s)
        return (.table (valuesOf entries), rest)) := by
  rw [readValue.eq_def]
  rfl

/-- A value leaves no more of the text than there was. -/
theorem shortens_readValue (nesting : Nat) : Shortens (readValue nesting) := by
  induction nesting using Nat.strong_induction_on with
  | _ nesting ih =>
      intro s v rest h
      cases s with
      | nil =>
          rw [readValue_nil] at h
          contradiction
      | cons c s =>
          by_cases harray : c = '['
          · subst harray
            by_cases hroom : nesting < 3
            · rw [readValue_of_lt hroom] at h
              contradiction
            · obtain ⟨more, rfl⟩ := Nat.exists_eq_add_of_le' (Nat.not_lt.mp hroom)
              simp only [readValue_bracket, bind_eq_ok_iff] at h
              obtain ⟨begins, hbegins, ⟨items, last⟩, hitems, h⟩ := h
              obtain ⟨-, rfl⟩ := Prod.mk.inj (Except.ok.inj h)
              have hfiller := (skipsWithin_skipFiller false s).length_le hbegins
              have hlast := shortens_readItems (ih (more + 1) (by omega)) _ _ _ _ hitems
              exact (hlast.trans hfiller).trans (Nat.le_succ _)
          · by_cases htable : c = '\x7b'
            · subst htable
              by_cases hroom : nesting < 3
              · rw [readValue_of_lt hroom] at h
                contradiction
              · obtain ⟨more, rfl⟩ := Nat.exists_eq_add_of_le' (Nat.not_lt.mp hroom)
                have hskip := length_skipSpace_le s
                rw [readValue_brace] at h
                split at h
                · next last hclose =>
                    obtain ⟨-, rfl⟩ := Prod.mk.inj (Except.ok.inj h)
                    exact ((length_le_of_after? hclose).trans hskip).trans (Nat.le_succ _)
                · obtain ⟨⟨entries, last⟩, hpairs, h⟩ := bind_eq_ok_iff.mp h
                  obtain ⟨-, rfl⟩ := Prod.mk.inj (Except.ok.inj h)
                  have hlast := shortens_readPairs (ih more (by omega)) _ _ _ _ _ hpairs
                  exact (hlast.trans hskip).trans (Nat.le_succ _)
            · rw [readValue_eq_readScalar harray htable] at h
              exact shortens_readScalar _ v rest h

/-- Where a value gives out for another cause than its grammar, with room for a number of arrays
and inline tables around each other: at an integer of too many digits, at a mark that opens an
array or an inline table where there is no room for it, or at such a place in an item of an array
or in a pair of an inline table. -/
inductive GivesOut : Nat → Text → ReadError → Prop
  | longInteger {nesting : Nat} {s : Text} :
      BeginsLongInteger s → GivesOut nesting s .longInteger
  | tooDeep {nesting : Nat} {c : CodePoint} {rest : Text} : nesting < 3 → c = '[' ∨ c = '\x7b' →
      GivesOut nesting (c :: rest) .tooDeep
  | item {nesting : Nat} {rest begins last : Text} {e : ReadError} :
      skipFiller false rest = .ok begins →
      Relation.ReflTransGen (NextItem (readValue (nesting + 1))) begins last →
      GivesOut (nesting + 1) last e → GivesOut (nesting + 3) (('[' : CodePoint) :: rest) e
  | pair {nesting : Nat} {rest value : Text} {last : Entries × Text} {e : ReadError} :
      Relation.ReflTransGen (NextPair (readValue nesting)) ([], skipSpace rest) last →
      AfterKey last.2 value → GivesOut nesting value e →
      GivesOut (nesting + 3) (('\x7b' : CodePoint) :: rest) e

/-- To give out is to fail for another cause than the grammar. -/
theorem GivesOut.ne_malformed {nesting : Nat} {s : Text} (h : GivesOut nesting s e) :
    e ≠ .malformed := by
  induction h with
  | longInteger => simp
  | tooDeep => simp
  | item _ _ _ ih => exact ih
  | pair _ _ _ ih => exact ih

/-- A long integer begins with none of the marks of arrays and inline tables. -/
theorem BeginsLongInteger.exists_cons (h : BeginsLongInteger s) :
    ∃ c rest, s = c :: rest ∧ c ≠ '[' ∧ c ≠ '\x7b' := by
  obtain ⟨sign, first, tail, rest, rfl, hsign, hfirst, -⟩ := h
  rcases hsign with rfl | rfl | rfl
  · exact ⟨first, _, rfl, ne_of_isDigit hfirst rfl, ne_of_isDigit hfirst rfl⟩
  · exact ⟨_, _, rfl, by decide, by decide⟩
  · exact ⟨_, _, rfl, by decide, by decide⟩

theorem not_givesOut_nil : ¬ GivesOut nesting [] e := by
  intro h
  cases h with
  | longInteger h =>
      obtain ⟨c, tail, heq, -⟩ := h.exists_cons
      contradiction

/-- Without a mark of an array or an inline table in front a value gives out like a scalar. -/
theorem givesOut_iff_of_ne (harray : c ≠ '[') (htable : c ≠ '\x7b') :
    GivesOut nesting (c :: rest) e ↔ e = .longInteger ∧ BeginsLongInteger (c :: rest) := by
  constructor
  · intro h
    cases h with
    | longInteger h => exact ⟨rfl, h⟩
    | tooDeep _ h => exact absurd h (not_or.mpr ⟨harray, htable⟩)
    | item => exact absurd rfl harray
    | pair => exact absurd rfl htable
  · rintro ⟨rfl, h⟩
    exact .longInteger h

/-- Without the room, a mark that opens an array or a table is where a value gives out. -/
theorem givesOut_iff_of_lt (hroom : nesting < 3) (hmark : c = '[' ∨ c = '\x7b') :
    GivesOut nesting (c :: rest) e ↔ e = .tooDeep := by
  constructor
  · intro h
    cases h with
    | longInteger h =>
        obtain ⟨d, tail, heq, harray, htable⟩ := h.exists_cons
        obtain ⟨rfl, -⟩ := List.cons.inj heq
        exact absurd hmark (not_or.mpr ⟨harray, htable⟩)
    | tooDeep => rfl
    | item => omega
    | pair => omega
  · rintro rfl
    exact .tooDeep hroom hmark

/-- An array gives out exactly where an item does that is reached by reading those before it. -/
theorem givesOut_bracket_iff : GivesOut (nesting + 3) (('[' : CodePoint) :: rest) e ↔
    ∃ begins, skipFiller false rest = .ok begins ∧
      ∃ last, Relation.ReflTransGen (NextItem (readValue (nesting + 1))) begins last ∧
        GivesOut (nesting + 1) last e := by
  constructor
  · intro h
    cases h with
    | longInteger h =>
        obtain ⟨c, tail, heq, hc, -⟩ := h.exists_cons
        exact absurd (List.cons.inj heq).1.symm hc
    | tooDeep hroom => omega
    | item hbegins hitems h => exact ⟨_, hbegins, _, hitems, h⟩
  · rintro ⟨begins, hbegins, last, hitems, h⟩
    exact .item hbegins hitems h

/-- A table gives out exactly where the value of a pair does that is reached by reading those before
it. -/
theorem givesOut_brace_iff : GivesOut (nesting + 3) (('\x7b' : CodePoint) :: rest) e ↔
    ∃ last, Relation.ReflTransGen (NextPair (readValue nesting)) ([], skipSpace rest) last ∧
      ∃ value, AfterKey last.2 value ∧ GivesOut nesting value e := by
  constructor
  · intro h
    cases h with
    | longInteger h =>
        obtain ⟨c, tail, heq, -, hc⟩ := h.exists_cons
        exact absurd (List.cons.inj heq).1.symm hc
    | tooDeep hroom => omega
    | pair hpairs hkey h => exact ⟨_, hpairs, _, hkey, h⟩
  · rintro ⟨last, hpairs, value, hkey, h⟩
    exact .pair hpairs hkey h

theorem readScalar_closing (s : Text) :
    readScalar ((']' : CodePoint) :: s) = .error .malformed := by
  have hstring : readString? ((']' : CodePoint) :: s) = none := rfl
  have hmoment : readMoment? ((']' : CodePoint) :: s) = none := readMoment?_cons_eq_none rfl s
  have hbased : based? ((']' : CodePoint) :: s) = none := rfl
  have hdecimal : decimal? ((']' : CodePoint) :: s) = none := rfl
  have hnamed : named? ((']' : CodePoint) :: s) = none := rfl
  rw [readScalar, hstring]
  simp only [hmoment, hbased, hdecimal, hnamed]

theorem readValue_closing (nesting : Nat) (s : Text) :
    readValue nesting ((']' : CodePoint) :: s) = .error .malformed := by
  rw [readValue_eq_readScalar (by decide) (by decide)]
  exact readScalar_closing s

/-- The name that a key begins with begins with a mark for it. -/
theorem exists_of_readKey {key : Text × List Text} (h : readKey s = .ok (key, rest)) :
    ∃ c later, s = c :: later ∧ beginsKey c = true := by
  obtain ⟨⟨name, after⟩, hname, -⟩ := bind_eq_ok_iff.mp h
  cases s with
  | nil => contradiction
  | cons c s =>
      refine ⟨c, s, rfl, ?_⟩
      rw [readName] at hname
      split at hname
      · next hquote => simp [beginsKey, hquote]
      · split at hname
        · next happ => simp [beginsKey, happ]
        · split at hname
          · next hbare => simp [beginsKey, hbare]
          · contradiction

theorem not_afterKey_brace {value : Text} : ¬ AfterKey (('\x7d' : CodePoint) :: s) value := by
  rintro ⟨key, after, later, hkey, -⟩
  obtain ⟨c, tail, heq, hc⟩ := exists_of_readKey hkey
  obtain ⟨rfl, -⟩ := List.cons.inj heq
  contradiction

/-- No pair is read where an inline table is closed. -/
theorem not_nextPair_brace {value : Read Value} {entries : Entries} {next : Entries × Text} :
    ¬ NextPair value (entries, ('\x7d' : CodePoint) :: s) next := by
  rintro ⟨key, v, after, later, hpair, -⟩
  obtain ⟨⟨found, rest⟩, hkey, -⟩ := bind_eq_ok_iff.mp hpair
  obtain ⟨c, tail, heq, hc⟩ := exists_of_readKey hkey
  obtain ⟨rfl, -⟩ := List.cons.inj heq
  contradiction

/-- An array fails for another cause than the grammar exactly if one of its items does. -/
theorem readArray_eq_error_iff (he : e ≠ .malformed) :
    readValue (nesting + 3) (('[' : CodePoint) :: s) = .error e ↔
      ∃ begins, skipFiller false s = .ok begins ∧
        ∃ last, Relation.ReflTransGen (NextItem (readValue (nesting + 1))) begins last ∧
          readValue (nesting + 1) last = .error e := by
  have hitems (begins : Text) := readItems_eq_error_iff (shortens_readValue (nesting + 1))
    (readValue_closing _) he (Nat.lt_succ_self begins.length)
  simp only [← hitems]
  rw [readValue_bracket, bind_eq_error_iff]
  constructor
  · rintro (h | ⟨begins, hbegins, h⟩)
    · exact absurd ((skipsWithin_skipFiller _ _).eq_malformed h) he
    · rcases bind_eq_error_iff.mp h with h | ⟨_, -, h⟩
      · exact ⟨begins, hbegins, h⟩
      · contradiction
  · rintro ⟨begins, hbegins, h⟩
    exact .inr ⟨begins, hbegins, bind_eq_error_iff.mpr (.inl h)⟩

/-- An inline table fails for another cause than the grammar exactly if the value of one of its
pairs does. -/
theorem readTable_eq_error_iff (he : e ≠ .malformed) :
    readValue (nesting + 3) (('\x7b' : CodePoint) :: s) = .error e ↔
      ∃ last, Relation.ReflTransGen (NextPair (readValue nesting)) ([], skipSpace s) last ∧
        ∃ begins, AfterKey last.2 begins ∧ readValue nesting begins = .error e := by
  have hlimit : (skipSpace s).length < s.length + 1 := Nat.lt_succ_of_le (length_skipSpace_le s)
  simp only [← readPair_eq_error_iff he]
  rw [readValue_brace]
  split
  · next rest hclose =>
      rw [after?_eq_some_iff] at hclose
      rw [hclose, exists_reflTransGen_iff]
      have hreturn : (pure (.table [], rest) : Except ReadError (Value × Text)) ≠ .error e :=
        fun h => by contradiction
      simp [hreturn, not_nextPair_brace, readPair_eq_error_iff he, not_afterKey_brace]
  · rw [← readPairs_eq_error_iff (shortens_readValue nesting) he hlimit, bind_eq_error_iff]
    refine ⟨fun h => ?_, .inl⟩
    rcases h with h | ⟨_, -, h⟩
    · exact h
    · contradiction

/-- Reading a value fails for another cause than its grammar exactly where the text gives out. -/
theorem readValue_eq_error_iff (he : e ≠ .malformed) :
    readValue nesting s = .error e ↔ GivesOut nesting s e := by
  induction nesting using Nat.strong_induction_on generalizing s with
  | _ nesting ih =>
      cases s with
      | nil => simp [readValue_nil, not_givesOut_nil, he.symm]
      | cons c s =>
          by_cases hmark : c = '[' ∨ c = '\x7b'
          · by_cases hroom : nesting < 3
            · rw [readValue_of_lt hroom, if_pos (by simpa using hmark),
                givesOut_iff_of_lt hroom hmark, Except.error.injEq, eq_comm]
            · obtain ⟨more, rfl⟩ := Nat.exists_eq_add_of_le' (Nat.not_lt.mp hroom)
              rcases hmark with rfl | rfl
              · rw [readArray_eq_error_iff he, givesOut_bracket_iff]
                simp only [ih (more + 1) (by omega)]
              · rw [readTable_eq_error_iff he, givesOut_brace_iff]
                simp only [ih more (by omega)]
          · obtain ⟨harray, htable⟩ := not_or.mp hmark
            rw [readValue_eq_readScalar harray htable, readScalar_eq_error_iff he,
              givesOut_iff_of_ne harray htable]

/-! ## Statements -/

/-- From the beginning of a line to the next one, with what has been read so far. -/
def NextLine (room : Nat) (place next : Progress × Text) : Prop :=
  ∃ after, readStatement room place.1 (skipSpace place.2) = .ok (next.1, after) ∧
    skipOptionalComment (skipSpace after) = .ok (('\n' : CodePoint) :: next.2)

/-- The name of a table ends within the text. -/
theorem within_readHeader (progress : Progress) (change : Option Node → Option Node)
    (close s : Text) : Within s.length (readHeader progress change close s) := by
  have hkey : Within s.length (readKey (skipSpace s)) :=
    (within_readKey _).mono (length_skipSpace_le s)
  refine hkey.bind fun (name, names) rest hrest => ?_
  cases hentries : declare change name names (closedEntries progress.entries) with
  | none =>
      simp only [hentries, orMalformed, bind, Except.bind]
      exact .malformed
  | some entries =>
      simp only [hentries, orMalformed, bind, Except.bind]
      split
      · refine .ok ?_
        rw [List.length_drop]
        omega
      · exact .malformed

/-- A line with a pair leaves no more of the text than there was. -/
theorem shortens_readEntry (room : Nat) (progress : Progress) :
    Shortens (readEntry room progress) := by
  intro s next rest h
  simp only [readEntry, bind_eq_ok_iff] at h
  obtain ⟨⟨⟨⟨name, names⟩, v⟩, after⟩, hpair, entries, -, h⟩ := h
  obtain ⟨-, rfl⟩ := Prod.mk.inj (Except.ok.inj h)
  exact shortens_readPair (shortens_readValue room) _ _ _ hpair

/-- A line leaves no more of the text than there was. -/
theorem shortens_readStatement (room : Nat) (progress : Progress) :
    Shortens (readStatement room progress) := by
  intro s next rest h
  cases s with
  | nil => exact (Prod.mk.inj (Except.ok.inj h)).2 ▸ Nat.le_refl _
  | cons c s =>
      rw [readStatement] at h
      split at h
      · split at h
        · next later hbracket =>
            have hlater := length_le_of_after? hbracket
            exact (((within_readHeader _ _ _ later).length_le h).trans hlater).trans (Nat.le_succ _)
        · exact ((within_readHeader _ _ _ s).length_le h).trans (Nat.le_succ _)
      · split at h
        · exact shortens_readEntry room progress _ _ _ h
        · exact (Prod.mk.inj (Except.ok.inj h)).2 ▸ Nat.le_refl _

/-- A statement fails for another cause than the grammar exactly if it is a pair whose value
does. -/
theorem readStatement_eq_error_iff {room : Nat} {progress : Progress} (he : e ≠ .malformed) :
    readStatement room progress s = .error e ↔
      ∃ begins, AfterKey s begins ∧ GivesOut room begins e := by
  simp only [← readValue_eq_error_iff he]
  constructor
  · intro h
    cases s with
    | nil => contradiction
    | cons c s =>
        rw [readStatement] at h
        split at h
        · split at h
          · exact absurd ((within_readHeader _ _ _ _).eq_malformed h) he
          · exact absurd ((within_readHeader _ _ _ _).eq_malformed h) he
        · split at h
          · rcases bind_eq_error_iff.mp h with h | ⟨_, -, h⟩
            · exact (readPair_eq_error_iff he).mp h
            · rcases bind_eq_error_iff.mp h with h | ⟨_, -, h⟩
              · exact absurd (eq_malformed_of_orMalformed h) he
              · contradiction
          · contradiction
  · intro h
    obtain ⟨c, later, rfl, hc⟩ : ∃ c later, s = c :: later ∧ beginsKey c = true := by
      obtain ⟨_, ⟨key, after, later, hkey, -⟩, -⟩ := h
      exact exists_of_readKey hkey
    rw [readStatement]
    simp only [if_neg (ne_of_kind hc (show beginsKey '[' = false from rfl)), if_pos hc]
    exact bind_eq_error_iff.mpr (.inl ((readPair_eq_error_iff he).mpr h))

/-- The next line begins further on. -/
theorem NextLine.length_lt {room : Nat} {place next : Progress × Text}
    (h : NextLine room place next) : next.2.length < place.2.length := by
  obtain ⟨after, hstatement, hline⟩ := h
  have hspace := length_skipSpace_le place.2
  have hafter := shortens_readStatement room place.1 _ _ _ hstatement
  have hskip := length_skipSpace_le after
  have hcomment := (skipsWithin_skipOptionalComment (skipSpace after)).length_le hline
  rw [List.length_cons] at hcomment
  omega

/-- Lines fail for another cause than the grammar exactly if a statement does, after any number of
lines. -/
theorem readLines_eq_error_iff {room : Nat} {progress : Progress} (he : e ≠ .malformed)
    {limit : Nat} (hlimit : s.length < limit) :
    readLines room progress limit s = .error e ↔
      ∃ last, Relation.ReflTransGen (NextLine room) (progress, s) last ∧
        readStatement room last.1 (skipSpace last.2) = .error e := by
  induction limit generalizing s progress with
  | zero => exact absurd hlimit (Nat.not_lt_zero _)
  | succ limit ih =>
      rw [readLines, exists_reflTransGen_iff, bind_eq_error_iff]
      apply or_congr_right
      constructor
      · rintro ⟨⟨next, after⟩, hstatement, h⟩
        rcases bind_eq_error_iff.mp h with h | ⟨line, hline, h⟩
        · exact absurd ((skipsWithin_skipOptionalComment _).eq_malformed h) he
        · cases line with
          | nil => contradiction
          | cons c line =>
              simp only at h
              split at h
              · next hend =>
                  have hstep : NextLine room (progress, s) (next, line) :=
                    ⟨after, hstatement, hend ▸ hline⟩
                  have hshorter := hstep.length_lt
                  simp only at hshorter
                  exact ⟨_, hstep, (ih (by omega)).mp h⟩
              · exact absurd (Except.error.inj h).symm he
      · rintro ⟨⟨next, line⟩, hstep, h⟩
        have hshorter := hstep.length_lt
        obtain ⟨after, hstatement, hline⟩ := hstep
        simp only at hshorter hline
        refine ⟨_, hstatement, bind_eq_error_iff.mpr (.inr ⟨_, hline, ?_⟩)⟩
        simp only [if_true]
        exact (ih (by omega)).mpr h

/-- Where a document gives out for another cause than its grammar: behind any number of lines that
are read, at the value of a pair. -/
def DocumentGivesOut (room : Nat) (s : Text) (e : ReadError) : Prop :=
  ∃ last value, Relation.ReflTransGen (NextLine room) (⟨[], []⟩, s) last ∧
    AfterKey (skipSpace last.2) value ∧ GivesOut room value e

/-- A document is refused for another cause than its grammar exactly if it gives out, once its line
ends have their short form. -/
theorem read_eq_error_iff {room : Nat} :
    read room s = .error e ∧ e ≠ .malformed ↔ DocumentGivesOut room (normalizeLines s) e := by
  have hread (he : e ≠ .malformed) :
      read room s = .error e ↔ DocumentGivesOut room (normalizeLines s) e := by
    rw [read]
    simp only [map_eq_error_iff, readLines_eq_error_iff he (Nat.lt_succ_self _),
      readStatement_eq_error_iff he, DocumentGivesOut]
    constructor
    · rintro ⟨last, hlines, value, hkey, h⟩
      exact ⟨last, value, hlines, hkey, h⟩
    · rintro ⟨last, value, hlines, hkey, h⟩
      exact ⟨last, hlines, value, hkey, h⟩
  constructor
  · rintro ⟨h, he⟩
    exact (hread he).mp h
  · intro h
    obtain ⟨last, value, -, -, hvalue⟩ := id h
    exact ⟨(hread hvalue.ne_malformed).mpr h, hvalue.ne_malformed⟩

end ContentQuery.Toml
