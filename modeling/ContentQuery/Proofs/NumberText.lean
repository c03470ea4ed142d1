import ContentQuery.Json.Reader
import ContentQuery.Json.Writer
import ContentQuery.Proofs.Digits
import ContentQuery.Proofs.Rounding

/-!
# ContentQuery.Proofs.NumberText

Numbers written and read again. An integer comes back as long as it has not too many digits; a
number of the binary format comes back whatever grid its decimal was found on, because a decimal is
taken only if it reads back.
-/

namespace ContentQuery

/-! ## The shortest decimal -/

namespace Binary64

/-- Whether a number is neither an infinity nor a NaN. -/
def isFinite : Binary64 → Bool
  | finite _ _ _ => true
  | _ => false

/-- A decimal on a grid is taken only if it has the number as its nearest one. -/
theorem onGrid?_spec {negative : Bool} {units : Nat} {exponent : Int} {d : Decimal}
    (h : onGrid? negative units exponent = some d) :
    d.negative = negative ∧ d.toBinary64 = ofUnits negative units := by
  unfold onGrid? at h
  simp only at h
  split at h
  · next hnumber =>
      rw [← Option.some.inj h]
      exact ⟨rfl, hnumber⟩
  · split at h
    · next hnumber =>
        rw [← Option.some.inj h]
        exact ⟨rfl, hnumber⟩
    · split at h
      · next hnumber =>
          rw [← Option.some.inj h]
          exact ⟨rfl, hnumber⟩
      · contradiction

/-- The digits that a search finds denote the number that was to be written, with its sign. -/
theorem searchFrom_spec (negative : Bool) (exponent : Fin 2047)
    (fraction : Fin 4503599627370496) (grids : Nat) (grid : Int) :
    (searchFrom negative (magnitude exponent fraction) grids grid).negative = negative ∧
      (searchFrom negative (magnitude exponent fraction) grids grid).toBinary64 =
        finite negative exponent fraction := by
  induction grids generalizing grid with
  | zero => exact ⟨rfl, Decimal.toBinary64_of_units negative⟩
  | succ grids ih =>
      rw [searchFrom]
      cases hgrid : onGrid? negative (magnitude exponent fraction) grid with
      | none => exact ih (grid - 1)
      | some d =>
          obtain ⟨hnegative, hnumber⟩ := onGrid?_spec hgrid
          exact ⟨hnegative, by rw [hnumber, ofUnits_magnitude]⟩

/-- The shortest decimal of a number reads back as the number. -/
theorem shortest_spec (negative : Bool) (exponent : Fin 2047) (fraction : Fin 4503599627370496) :
    (shortest negative (magnitude exponent fraction)).negative = negative ∧
      (shortest negative (magnitude exponent fraction)).toBinary64 =
        finite negative exponent fraction :=
  searchFrom_spec negative exponent fraction _ _

/-- The shortest digits of a number other than zero do not denote zero. -/
theorem coefficient_shortest_ne_zero (negative : Bool) {exponent : Fin 2047}
    {fraction : Fin 4503599627370496} (h : magnitude exponent fraction ≠ 0) :
    (shortest negative (magnitude exponent fraction)).coefficient ≠ 0 := by
  intro hzero
  have hnumber := (shortest_spec negative exponent fraction).2
  rw [Decimal.toBinary64, if_pos hzero, zero, finite.injEq] at hnumber
  obtain ⟨-, rfl, rfl⟩ := hnumber
  exact h rfl

/-- A finite number without magnitude is zero. -/
theorem eq_zero_of_magnitude {exponent : Fin 2047} {fraction : Fin 4503599627370496}
    (h : magnitude exponent fraction = 0) (negative : Bool) :
    finite negative exponent fraction = zero negative := by
  rw [← ofUnits_magnitude, h, ofUnits_zero]

end Binary64

namespace Json

/-! ## The parts of a number -/

/-- Whether a text does not go on with what could belong to a number. -/
def EndsNumber (s : Text) : Prop :=
  ∀ c ∈ s.head?, c.isDigit = false ∧ c ≠ '.' ∧ c ≠ 'e' ∧ c ≠ 'E'

theorem EndsNumber.endsDigits {s : Text} (h : EndsNumber s) : s.EndsDigits := fun c hc => (h c hc).1

/-- Whether a run of digits can stand before the point. -/
structure IsWhole (whole : Text) : Prop where
  digits : ∀ c ∈ whole, c.isDigit = true
  leading : whole = [('0' : CodePoint)] ∨ whole ≠ [] ∧ whole.head? ≠ some ('0' : CodePoint)

/-- A number as it is written is a whole part. -/
theorem isWhole_ofNat (n : Nat) : IsWhole (Text.ofNat n) where
  digits _ hc := Text.isDigit_of_mem_ofNat hc
  leading := by
    by_cases hn : n = 0
    · subst hn
      exact .inl rfl
    · exact .inr ⟨Text.ofNat_ne_nil n, Text.head?_ofNat_ne_zero hn⟩

/-- A whole part is taken up to what is no digit. -/
theorem splitWhole_append {whole rest : Text} (hwhole : IsWhole whole) (hrest : rest.EndsDigits) :
    splitWhole (whole ++ rest) = some (whole, rest) := by
  rcases hwhole.leading with rfl | ⟨hne, hhead⟩
  · rfl
  · cases whole with
    | nil => contradiction
    | cons c digits =>
        have hc : c ≠ ('0' : CodePoint) := fun h => hhead (by rw [h, List.head?_cons])
        have hdigits : ∀ d ∈ digits, d.isDigit = true :=
          fun d hd => hwhole.digits d (List.mem_cons_of_mem _ hd)
        rw [List.cons_append, splitWhole, if_neg hc, if_pos (hwhole.digits c List.mem_cons_self),
          Text.takeWhile_isDigit_append hdigits hrest, Text.dropWhile_isDigit_append hdigits hrest]

/-- A fraction is taken up to what is no digit. -/
theorem splitFraction_append {fraction rest : Text} (hdigits : ∀ c ∈ fraction, c.isDigit = true)
    (hne : fraction ≠ []) (hrest : rest.EndsDigits) :
    splitFraction (('.' : CodePoint) :: fraction ++ rest) = (fraction, rest) := by
  rw [List.cons_append, splitFraction]
  simp only [Text.takeWhile_isDigit_append hdigits hrest,
    Text.dropWhile_isDigit_append hdigits hrest]
  rw [if_pos (by simpa using hne)]

/-- There is no fraction without a point. -/
theorem splitFraction_of_ne {s : Text} (h : ∀ c ∈ s.head?, c ≠ '.') :
    splitFraction s = ([], s) := by
  cases s with
  | nil => rfl
  | cons c rest =>
      have hc : c ≠ ('.' : CodePoint) := h c rfl
      rw [splitFraction]
      simp [hc]

/-- The power of ten of a number, as it is written. -/
def powerText (power : Int) : Text :=
  (if power < 0 then "e-" else "e+") ++ Text.ofNatPadded 2 power.natAbs

/-- An exponent as it is written is taken up to what is no digit. -/
theorem splitExponent_append (power : Int) {rest : Text} (hrest : rest.EndsDigits) :
    splitExponent (powerText power ++ rest) = (some power, rest) := by
  have hdigits : ∀ c ∈ Text.ofNatPadded 2 power.natAbs, c.isDigit = true :=
    fun c hc => Text.isDigit_of_mem_ofNatPadded hc
  have hne : (Text.ofNatPadded 2 power.natAbs).isEmpty = false := by
    simpa using Text.ofNatPadded_ne_nil 2 power.natAbs
  have htake := Text.takeWhile_isDigit_append hdigits hrest
  have hdrop := Text.dropWhile_isDigit_append hdigits hrest
  by_cases hneg : power < 0
  · have htext : powerText power ++ rest =
        ('e' : CodePoint) :: ('-' : CodePoint) :: (Text.ofNatPadded 2 power.natAbs ++ rest) := by
      rw [powerText, if_pos hneg, List.append_assoc]
      rfl
    have hvalue : -(power.natAbs : Int) = power := by omega
    rw [htext, splitExponent]
    simp only [splitSign, if_true, htake, hdrop, hne, Text.digitsValue_ofNatPadded, hvalue]
    rfl
  · have htext : powerText power ++ rest =
        ('e' : CodePoint) :: ('+' : CodePoint) :: (Text.ofNatPadded 2 power.natAbs ++ rest) := by
      rw [powerText, if_neg hneg, List.append_assoc]
      rfl
    have hvalue : (power.natAbs : Int) = power := by omega
    have hsign (s : Text) : splitSign (('+' : CodePoint) :: s) = (false, s) := rfl
    rw [htext, splitExponent]
    simp only [hsign, htake, hdrop, hne, Text.digitsValue_ofNatPadded, hvalue]
    rfl

/-- There is no exponent without a mark for it. -/
theorem splitExponent_of_ne {s : Text} (h : ∀ c ∈ s.head?, c ≠ 'e' ∧ c ≠ 'E') :
    splitExponent s = (none, s) := by
  cases s with
  | nil => rfl
  | cons c rest =>
      obtain ⟨hlower, hupper⟩ := h c rfl
      rw [splitExponent]
      simp [hlower, hupper]

/-! ## Numbers without a sign -/

/-- Digits without a fraction and an exponent are read as an integer. -/
theorem readUnsigned_digits (dialect : Dialect) (negative : Bool) {whole rest : Text}
    (hwhole : IsWhole whole) (hrest : EndsNumber rest) :
    readUnsigned dialect negative (whole ++ rest) =
      (integer dialect negative whole).map (·, rest) := by
  have hfraction : splitFraction rest = ([], rest) :=
    splitFraction_of_ne fun c hc => (hrest c hc).2.1
  have hexponent : splitExponent rest = (none, rest) :=
    splitExponent_of_ne fun c hc => (hrest c hc).2.2
  simp only [readUnsigned, splitWhole_append hwhole hrest.endsDigits, hfraction, hexponent]
  rfl

/-- Digits with a fraction are read as the number that they denote. -/
theorem readUnsigned_point (dialect : Dialect) (negative : Bool) {whole fraction rest : Text}
    (hwhole : IsWhole whole) (hfraction : ∀ c ∈ fraction, c.isDigit = true) (hne : fraction ≠ [])
    (hrest : EndsNumber rest) :
    readUnsigned dialect negative (whole ++ (('.' : CodePoint) :: fraction ++ rest)) =
      .ok (.float (Decimal.ofDigits negative whole fraction 0).toBinary64, rest) := by
  have hpoint : Text.EndsDigits (('.' : CodePoint) :: fraction ++ rest) := by
    intro c hc
    rw [List.cons_append, List.head?_cons, Option.mem_some_iff] at hc
    rw [← hc]
    rfl
  have hexponent : splitExponent rest = (none, rest) :=
    splitExponent_of_ne fun c hc => (hrest c hc).2.2
  simp only [readUnsigned, splitWhole_append hwhole hpoint,
    splitFraction_append hfraction hne hrest.endsDigits, hexponent]
  rw [if_neg (by simp [hne])]
  rfl

/-- The digits after the point of a number, if there are any. -/
def pointText (fraction : Text) : Text :=
  match fraction with
  | [] => []
  | c :: rest => '.' :: c :: rest

/-- Digits with an exponent are read as the number that they denote. -/
theorem readUnsigned_power (dialect : Dialect) (negative : Bool) {whole fraction rest : Text}
    (power : Int) (hwhole : IsWhole whole) (hfraction : ∀ c ∈ fraction, c.isDigit = true)
    (hrest : EndsNumber rest) :
    readUnsigned dialect negative (whole ++ (pointText fraction ++ (powerText power ++ rest))) =
      .ok (.float (Decimal.ofDigits negative whole fraction power).toBinary64, rest) := by
  have hmark : ∃ s, powerText power ++ rest = ('e' : CodePoint) :: s := by
    by_cases hneg : power < 0
    · exact ⟨_, by rw [powerText, if_pos hneg]; rfl⟩
    · exact ⟨_, by rw [powerText, if_neg hneg]; rfl⟩
  obtain ⟨s, hs⟩ := hmark
  have hends : Text.EndsDigits (powerText power ++ rest) := by
    intro c hc
    rw [hs, List.head?_cons, Option.mem_some_iff] at hc
    rw [← hc]
    rfl
  have hexponent := splitExponent_append power hrest.endsDigits
  cases fraction with
  | nil =>
      have hnone : splitFraction (powerText power ++ rest) = ([], powerText power ++ rest) := by
        apply splitFraction_of_ne
        intro c hc
        rw [hs, List.head?_cons, Option.mem_some_iff] at hc
        rw [← hc]
        decide
      rw [pointText, List.nil_append]
      simp only [readUnsigned, splitWhole_append hwhole hends, hnone, hexponent]
      rfl
  | cons d fraction =>
      have hpoint : Text.EndsDigits (pointText (d :: fraction) ++ (powerText power ++ rest)) := by
        intro c hc
        rw [pointText, List.cons_append, List.head?_cons, Option.mem_some_iff] at hc
        rw [← hc]
        rfl
      have hsplit := splitFraction_append hfraction (List.cons_ne_nil d fraction) hends
      simp only [readUnsigned, splitWhole_append hwhole hpoint]
      rw [pointText, hsplit]
      simp only [hexponent]
      rfl

theorem isDigit_of_mem_zeros {k : Nat} {c : CodePoint}
    (hc : c ∈ List.replicate k ('0' : CodePoint)) : c.isDigit = true := by
  rw [List.eq_of_mem_replicate hc]
  rfl

/-- Whether digits before and after a point denote a number near which a decimal lies. -/
structure IsPointed (d : Decimal) (whole fraction : Text) : Prop where
  isWhole : IsWhole whole
  digits : ∀ c ∈ fraction, c.isDigit = true
  nonempty : fraction ≠ []
  value : (Decimal.ofDigits d.negative whole fraction 0).toBinary64 = d.toBinary64

/-- The digits of a number behind a point, with zeros between. -/
theorem exists_positional_before (negative : Bool) (n : Nat) {before : Int} (hbefore : before ≤ 0) :
    ∃ whole fraction,
      Binary64.positional (Text.ofNat n) before = whole ++ ('.' : CodePoint) :: fraction ∧
        IsPointed ⟨negative, n, before - (Text.ofNat n).length⟩ whole fraction := by
  let fraction := List.replicate before.natAbs ('0' : CodePoint) ++ Text.ofNat n
  have htext : Binary64.positional (Text.ofNat n) before =
      Text.ofNat 0 ++ ('.' : CodePoint) :: fraction := by
    rw [Binary64.positional, if_pos hbefore]
    simp only [fraction, List.append_assoc]
    rfl
  have hfraction : ∀ c ∈ fraction, c.isDigit = true := by
    intro c hc
    exact (List.mem_append.mp hc).elim isDigit_of_mem_zeros Text.isDigit_of_mem_ofNat
  have hne : fraction ≠ [] := by
    simp only [fraction, ne_eq, List.append_eq_nil_iff, not_and]
    exact fun _ => Text.ofNat_ne_nil n
  have hvalue : Decimal.ofDigits negative (Text.ofNat 0) fraction 0 =
      ⟨negative, n, before - (Text.ofNat n).length⟩ := by
    rw [Decimal.ofDigits, Decimal.mk.injEq]
    refine ⟨rfl, ?_, ?_⟩
    · rw [Text.digitsValue_append, Text.digitsValue_append, Text.digitsValue_zeros,
        Text.digitsValue_ofNat, Text.digitsValue_ofNat, Nat.zero_mul, Nat.zero_mul, Nat.zero_add,
        Nat.zero_add]
    · simp only [fraction, List.length_append, List.length_replicate]
      omega
  exact ⟨_, fraction, htext, isWhole_ofNat 0, hfraction, hne, congrArg Decimal.toBinary64 hvalue⟩

/-- The digits of a positive number with zeros behind them, and a point behind these. -/
theorem exists_positional_behind (negative : Bool) {n : Nat} (hn : n ≠ 0) {before : Int}
    (hpos : ¬ before ≤ 0) (hbefore : ((Text.ofNat n).length : Int) ≤ before) :
    ∃ whole fraction,
      Binary64.positional (Text.ofNat n) before = whole ++ ('.' : CodePoint) :: fraction ∧
        IsPointed ⟨negative, n, before - (Text.ofNat n).length⟩ whole fraction := by
  let zeros := before.toNat - (Text.ofNat n).length
  let whole := Text.ofNat n ++ List.replicate zeros ('0' : CodePoint)
  have htext : Binary64.positional (Text.ofNat n) before =
      whole ++ ('.' : CodePoint) :: Text.ofNat 0 := by
    rw [Binary64.positional, if_neg hpos, if_pos hbefore]
    simp only [whole, zeros, List.append_assoc]
    rfl
  have hwhole : IsWhole whole := by
    constructor
    · intro c hc
      exact (List.mem_append.mp hc).elim Text.isDigit_of_mem_ofNat isDigit_of_mem_zeros
    · right
      rw [List.head?_append_of_ne_nil _ (Text.ofNat_ne_nil n)]
      refine ⟨?_, Text.head?_ofNat_ne_zero hn⟩
      simp [whole, Text.ofNat_ne_nil n]
  -- The zeros and the one behind the point only shift the digits.
  have hvalue : Decimal.ofDigits negative whole (Text.ofNat 0) 0 = ⟨negative,
      n * 10 ^ (zeros + 1), before - (Text.ofNat n).length - (zeros + 1 : Nat)⟩ := by
    have hlength : (Text.ofNat 0).length = 1 := rfl
    rw [Decimal.ofDigits, Decimal.mk.injEq]
    refine ⟨rfl, ?_, ?_⟩
    · rw [Text.digitsValue_append, Text.digitsValue_append, Text.digitsValue_zeros,
        Text.digitsValue_ofNat, Text.digitsValue_ofNat, List.length_replicate, hlength,
        Nat.pow_succ]
      ring
    · rw [hlength]
      simp only [zeros]
      omega
  refine ⟨whole, _, htext, hwhole, fun c hc => Text.isDigit_of_mem_ofNat hc,
    Text.ofNat_ne_nil 0, ?_⟩
  rw [hvalue, Decimal.toBinary64_shift]

/-- The digits of a positive number with a point between two of them. -/
theorem exists_positional_among (negative : Bool) {n : Nat} (hn : n ≠ 0) {before : Int}
    (hpos : ¬ before ≤ 0) (hbefore : ¬ ((Text.ofNat n).length : Int) ≤ before) :
    ∃ whole fraction,
      Binary64.positional (Text.ofNat n) before = whole ++ ('.' : CodePoint) :: fraction ∧
        IsPointed ⟨negative, n, before - (Text.ofNat n).length⟩ whole fraction := by
  let whole := (Text.ofNat n).take before.toNat
  let fraction := (Text.ofNat n).drop before.toNat
  have htext : Binary64.positional (Text.ofNat n) before =
      whole ++ ('.' : CodePoint) :: fraction := by
    rw [Binary64.positional, if_neg hpos, if_neg hbefore]
    simp only [whole, fraction, List.append_assoc]
    rfl
  have hwhole : IsWhole whole := by
    constructor
    · exact fun c hc => Text.isDigit_of_mem_ofNat (List.mem_of_mem_take hc)
    · right
      have hsome : before.toNat ≠ 0 := by omega
      refine ⟨by simp [whole, hsome, Text.ofNat_ne_nil n], ?_⟩
      rw [List.head?_take, if_neg hsome]
      exact Text.head?_ofNat_ne_zero hn
  have hfraction : ∀ c ∈ fraction, c.isDigit = true :=
    fun c hc => Text.isDigit_of_mem_ofNat (List.mem_of_mem_drop hc)
  have hne : fraction ≠ [] := by
    rw [ne_eq, List.drop_eq_nil_iff]
    omega
  have hvalue : Decimal.ofDigits negative whole fraction 0 =
      ⟨negative, n, before - (Text.ofNat n).length⟩ := by
    rw [Decimal.ofDigits, Decimal.mk.injEq, List.take_append_drop, Text.digitsValue_ofNat]
    refine ⟨rfl, rfl, ?_⟩
    rw [List.length_drop]
    omega
  exact ⟨whole, fraction, htext, hwhole, hfraction, hne, congrArg Decimal.toBinary64 hvalue⟩

/-- The digits of a positive number with a point among, before or behind them. -/
theorem exists_positional_eq (negative : Bool) {n : Nat} (hn : n ≠ 0) (before : Int) :
    ∃ whole fraction,
      Binary64.positional (Text.ofNat n) before = whole ++ ('.' : CodePoint) :: fraction ∧
        IsPointed ⟨negative, n, before - (Text.ofNat n).length⟩ whole fraction := by
  by_cases hsmall : before ≤ 0
  · exact exists_positional_before negative n hsmall
  · by_cases hlarge : ((Text.ofNat n).length : Int) ≤ before
    · exact exists_positional_behind negative hn hsmall hlarge
    · exact exists_positional_among negative hn hsmall hlarge

/-- A number in positional form is read as the number that its digits denote. -/
theorem readUnsigned_positional (dialect : Dialect) (negative : Bool) {n : Nat} (hn : n ≠ 0)
    (before : Int) {rest : Text} (hrest : EndsNumber rest) :
    readUnsigned dialect negative (Binary64.positional (Text.ofNat n) before ++ rest) =
      .ok (.float (Decimal.toBinary64 ⟨negative, n, before - (Text.ofNat n).length⟩), rest) := by
  obtain ⟨whole, fraction, htext, h⟩ := exists_positional_eq negative hn before
  rw [htext, List.append_assoc,
    readUnsigned_point dialect negative h.isWhole h.digits h.nonempty hrest, h.value]

/-- In scientific form, the first digit stands before the point. -/
theorem scientific_cons (d : CodePoint) (fraction : Text) (power : Int) :
    Binary64.scientific (d :: fraction) power = d :: (pointText fraction ++ powerText power) := by
  cases fraction <;> simp [Binary64.scientific, pointText, powerText]

/-- The digits of a positive number with a point behind the first of them, and a power of ten. -/
theorem readUnsigned_scientific (dialect : Dialect) (negative : Bool) {n : Nat} (hn : n ≠ 0)
    (power : Int) {rest : Text} (hrest : EndsNumber rest) :
    readUnsigned dialect negative (Binary64.scientific (Text.ofNat n) power ++ rest) =
      .ok (.float (Decimal.toBinary64 ⟨negative, n, power + 1 - (Text.ofNat n).length⟩), rest) := by
  cases hdigits : Text.ofNat n with
  | nil => exact absurd hdigits (Text.ofNat_ne_nil n)
  | cons d fraction =>
      have hall : ∀ c ∈ d :: fraction, c.isDigit = true := by
        intro c hc
        rw [← hdigits] at hc
        exact Text.isDigit_of_mem_ofNat hc
      have hhead := Text.head?_ofNat_ne_zero hn
      rw [hdigits, List.head?_cons] at hhead
      have hwhole : IsWhole [d] :=
        ⟨fun c hc => hall c (List.mem_cons.mpr (.inl (List.mem_singleton.mp hc))),
          .inr ⟨List.cons_ne_nil _ _, hhead⟩⟩
      have htext : Binary64.scientific (d :: fraction) power ++ rest =
          [d] ++ (pointText fraction ++ (powerText power ++ rest)) := by
        rw [scientific_cons, List.cons_append, List.append_assoc]
        rfl
      have hvalue : Decimal.ofDigits negative [d] fraction power =
          ⟨negative, n, power + 1 - (d :: fraction).length⟩ := by
        rw [Decimal.ofDigits, Decimal.mk.injEq, List.singleton_append, ← hdigits,
          Text.digitsValue_ofNat, hdigits, List.length_cons]
        refine ⟨rfl, rfl, ?_⟩
        omega
      rw [htext, readUnsigned_power dialect negative power hwhole
        (fun c hc => hall c (List.mem_cons_of_mem _ hc)) hrest, hvalue]

/-! ## Numbers with a sign -/

/-- Whether a text begins with a digit. -/
def BeginsDigits (s : Text) : Prop := ∃ d rest, s = d :: rest ∧ d.isDigit = true

theorem beginsDigits_append {digits : Text} (hne : digits ≠ [])
    (hdigits : ∀ c ∈ digits, c.isDigit = true) (rest : Text) : BeginsDigits (digits ++ rest) := by
  cases digits with
  | nil => contradiction
  | cons d digits => exact ⟨d, digits ++ rest, rfl, hdigits d List.mem_cons_self⟩

/-- The sign of a number, as it is written. -/
def signText (negative : Bool) : Text := Text.ofString (if negative then "-" else "")

/-- The sign of a number is read before its digits. -/
theorem readNumber_sign (dialect : Dialect) (negative : Bool) {unsigned : Text}
    (h : BeginsDigits unsigned) :
    readNumber dialect (signText negative ++ unsigned) =
      readUnsigned dialect negative unsigned := by
  obtain ⟨d, rest, rfl, hd⟩ := h
  cases negative with
  | true => rfl
  | false =>
      have hne : d ≠ ('-' : CodePoint) := by
        rintro rfl
        exact absurd hd (by decide)
      change readNumber dialect (d :: rest) = _
      rw [readNumber, if_neg hne]

/-- No name of a value begins like a number, with or without a sign. -/
theorem not_beginsDigits_of_mem_names {dialect : Dialect} {name : Text × Json}
    (h : name ∈ names dialect) :
    ∃ c rest, name.1 = c :: rest ∧ c.isDigit = false ∧
      (c = '-' → ∃ c' rest', rest = c' :: rest' ∧ c'.isDigit = false) := by
  have hall : name ∈ plainNames ++ nonFiniteNames := by
    rw [names] at h
    split at h
    · exact h
    · exact List.mem_append_left _ h
  simp only [plainNames, nonFiniteNames, List.cons_append, List.nil_append, List.mem_cons,
    List.not_mem_nil, or_false] at hall
  rcases hall with rfl | rfl | rfl | rfl | rfl | rfl
  case inr.inr.inr.inr.inr => exact ⟨_, _, rfl, rfl, fun _ => ⟨_, _, rfl, rfl⟩⟩
  all_goals exact ⟨_, _, rfl, rfl, fun h => absurd h (by decide)⟩

/-- What begins like a number is none of the values that are written as a name. -/
theorem readScalar_sign (dialect : Dialect) (negative : Bool) {unsigned : Text}
    (h : BeginsDigits unsigned) :
    readScalar dialect (signText negative ++ unsigned) =
      readUnsigned dialect negative unsigned := by
  rw [← readNumber_sign dialect negative h]
  obtain ⟨d, rest, rfl, hd⟩ := h
  have hnone : (names dialect).find? (fun name =>
      name.1.isPrefixOf (signText negative ++ d :: rest)) = none := by
    rw [List.find?_eq_none]
    intro name hname hprefix
    obtain ⟨c, tail, htext, hc, hsign⟩ := not_beginsDigits_of_mem_names hname
    rw [htext, List.isPrefixOf_iff_prefix] at hprefix
    cases negative with
    | true =>
        obtain ⟨heq, hrest⟩ := List.cons_prefix_cons.mp hprefix
        obtain ⟨c', tail', rfl, hc'⟩ := hsign heq
        obtain ⟨rfl, -⟩ := List.cons_prefix_cons.mp hrest
        rw [hd] at hc'
        contradiction
    | false =>
        obtain ⟨rfl, -⟩ := List.cons_prefix_cons.mp hprefix
        rw [hd] at hc
        contradiction
  obtain ⟨c, tail, hs, hquote⟩ : ∃ c tail,
      signText negative ++ d :: rest = c :: tail ∧ c ≠ '"' := by
    cases negative with
    | true => exact ⟨_, _, rfl, by decide⟩
    | false =>
        refine ⟨_, _, rfl, ?_⟩
        rintro rfl
        exact absurd hd (by decide)
  rw [hs] at hnone ⊢
  rw [readScalar]
  simp only [if_neg hquote, hnone]

/-! ## Numbers of the binary format and integers -/

theorem beginsDigits_positional (n : Nat) (before : Int) (rest : Text) :
    BeginsDigits (Binary64.positional (Text.ofNat n) before ++ rest) := by
  have hdigits : ∀ c ∈ Text.ofNat n, c.isDigit = true := fun c hc => Text.isDigit_of_mem_ofNat hc
  rw [Binary64.positional]
  split
  · exact ⟨_, _, rfl, rfl⟩
  · split
    · rw [List.append_assoc, List.append_assoc]
      exact beginsDigits_append (Text.ofNat_ne_nil n) hdigits _
    · next hsmall _ =>
        have hpos : before.toNat ≠ 0 := by omega
        rw [List.append_assoc, List.append_assoc]
        exact beginsDigits_append (by simp [hpos, Text.ofNat_ne_nil n])
          (fun c hc => hdigits c (List.mem_of_mem_take hc)) _

theorem beginsDigits_scientific (n : Nat) (power : Int) (rest : Text) :
    BeginsDigits (Binary64.scientific (Text.ofNat n) power ++ rest) := by
  cases hdigits : Text.ofNat n with
  | nil => exact absurd hdigits (Text.ofNat_ne_nil n)
  | cons d fraction =>
      have hd : d.isDigit = true := Text.isDigit_of_mem_ofNat (n := n) (by rw [hdigits]; simp)
      cases fraction <;> exact ⟨d, _, rfl, hd⟩

/-- The text of a positive decimal reads back as the nearest number of the decimal. -/
theorem readScalar_textOf (dialect : Dialect) {d : Decimal} (hd : d.coefficient ≠ 0) {rest : Text}
    (hrest : EndsNumber rest) :
    readScalar dialect (Binary64.textOf d ++ rest) = .ok (.float d.toBinary64, rest) := by
  obtain ⟨negative, n, exponent⟩ := d
  let before : Int := (Text.ofNat n).length + exponent
  have htext : Binary64.textOf ⟨negative, n, exponent⟩ ++ rest = signText negative ++
      ((if -4 < before ∧ before ≤ 16 then Binary64.positional (Text.ofNat n) before
        else Binary64.scientific (Text.ofNat n) (before - 1)) ++ rest) := by
    unfold Binary64.textOf
    exact List.append_assoc _ _ _
  have hexponent : before - (Text.ofNat n).length = exponent := by omega
  rw [htext]
  by_cases hbefore : -4 < before ∧ before ≤ 16
  · rw [if_pos hbefore, readScalar_sign dialect negative (beginsDigits_positional n _ rest),
      readUnsigned_positional dialect negative hd _ hrest, hexponent]
  · rw [if_neg hbefore, readScalar_sign dialect negative (beginsDigits_scientific n _ rest),
      readUnsigned_scientific dialect negative hd _ hrest, Int.sub_add_cancel, hexponent]

/-- A number of the binary format comes back, if the dialect has a name for it where it needs
one. -/
theorem readScalar_writeFloat {dialect : Dialect} {x : Binary64}
    (hx : dialect.nonFinite = true ∨ x.isFinite = true) {rest : Text} (hrest : EndsNumber rest) :
    readScalar dialect (writeFloat x ++ rest) = .ok (.float x, rest) := by
  cases x with
  | finite negative exponent fraction =>
      rw [writeFloat, Binary64.toText]
      by_cases hzero : Binary64.magnitude exponent fraction = 0
      · have hdigits : ∀ c ∈ Text.ofNat 0, c.isDigit = true :=
          fun c hc => Text.isDigit_of_mem_ofNat hc
        have htext : (if negative then "-0.0" else "0.0" : Text) ++ rest =
            signText negative ++ (Text.ofNat 0 ++ (('.' : CodePoint) :: Text.ofNat 0 ++ rest)) := by
          cases negative <;> rfl
        simp only [if_pos hzero]
        rw [htext, readScalar_sign dialect negative (beginsDigits_append (Text.ofNat_ne_nil 0)
          hdigits _), readUnsigned_point dialect negative (isWhole_ofNat 0) hdigits
          (Text.ofNat_ne_nil 0) hrest, Binary64.eq_zero_of_magnitude hzero]
        rfl
      · simp only [if_neg hzero]
        rw [readScalar_textOf dialect (Binary64.coefficient_shortest_ne_zero negative hzero) hrest,
          (Binary64.shortest_spec negative exponent fraction).2]
  | infinite negative =>
      have hnames : dialect.nonFinite = true := hx.resolve_right (by simp [Binary64.isFinite])
      cases negative <;>
        simp only [writeFloat, Binary64.toText, readScalar, names, if_pos hnames] <;> rfl
  | nan =>
      have hnames : dialect.nonFinite = true := hx.resolve_right (by simp [Binary64.isFinite])
      simp only [writeFloat, Binary64.toText, readScalar, names, if_pos hnames]
      rfl

/-- An integer of not too many digits comes back. -/
theorem readScalar_ofInt (dialect : Dialect) {n : Int} (hn : n.natAbs < 10 ^ maxDigits)
    {rest : Text} (hrest : EndsNumber rest) :
    readScalar dialect (Text.ofInt n ++ rest) = .ok (.int n, rest) := by
  have htext : Text.ofInt n ++ rest =
      signText (decide (n < 0)) ++ (Text.ofNat n.natAbs ++ rest) := by
    cases n with
    | ofNat m => rfl
    | negSucc m =>
        rw [decide_eq_true (Int.negSucc_lt_zero m)]
        rfl
  have hlength : (Text.ofNat n.natAbs).length ≤ maxDigits :=
    (Text.length_ofNat_le_iff (by decide)).mpr hn
  rw [htext, readScalar_sign dialect _ (beginsDigits_append (Text.ofNat_ne_nil _)
    (fun c hc => Text.isDigit_of_mem_ofNat hc) rest),
    readUnsigned_digits dialect _ (isWhole_ofNat _) hrest, integer, if_pos hlength]
  simp only [Text.digitsValue_ofNat, Except.map, decide_eq_true_eq]
  congr 3
  split <;> omega

end Json

end ContentQuery
