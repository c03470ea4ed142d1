import ContentQuery.Proofs.DayCount
import ContentQuery.Proofs.TimestampText
import Mathlib.Data.Rat.Floor
import Mathlib.Tactic.Linarith
import Mathlib.Tactic.Positivity

/-!
# ContentQuery.Proofs.Instants

The instant that a written timestamp denotes, in seconds and parts of a second from the beginning of
year 1 in universal time. A timestamp is read as its instant to the microsecond, whatever the offset
it is written with, and the order of timestamps is that of their instants.
-/

namespace ContentQuery

namespace WrittenTimestamp

open Timestamp

variable (w w' : WrittenTimestamp)

/-! ## Instants -/

/-- The whole seconds of the instant. -/
def seconds : Int :=
  (w.date.daysBefore * 86400 + w.hour * 3600 + w.minute * 60 + w.second : Nat) -
    w.offset.minutesAhead * 60

/-- The part of a second that the digits behind the point denote, however many there are. -/
def fractionValue : ℚ :=
  match w.fraction with
  | none => 0
  | some digits => Text.digitsValue digits / 10 ^ digits.length

/-- The instant that a timestamp denotes. -/
def instant : ℚ := w.seconds + w.fractionValue

/-- The instant, the part of a second cut off to microseconds. -/
def truncated : ℚ := w.seconds + ⌊w.fractionValue * 1000000⌋ / 1000000

/-- Whether the instant lies in the years 1 to 9999 of universal time. -/
def IsCovered : Prop :=
  0 ≤ w.truncated ∧ w.truncated < ((⟨10000, 1, 1⟩ : Date).daysBefore * 86400 : Nat)

/-! ## Microseconds -/

/-- Six digits, filled up with zeros, are what the whole part of a millionfold fraction is written
with. -/
theorem digitsValue_mul_div {digits : Text} (hdigits : ∀ c ∈ digits, c.isDigit = true) :
    Text.digitsValue digits * 1000000 / 10 ^ digits.length = fractionMicros (some digits) := by
  rw [fractionMicros, Option.getD_some]
  rcases Nat.le_total digits.length 6 with hshort | hlong
  · have hmillion : 1000000 = 10 ^ (6 - digits.length) * 10 ^ digits.length := by
      rw [← Nat.pow_add, Nat.sub_add_cancel hshort]
    rw [List.take_of_length_le hshort, hmillion, ← Nat.mul_assoc,
      Nat.mul_div_cancel _ (Nat.pow_pos (by decide))]
  · have hpower : 10 ^ digits.length = 10 ^ (digits.length - 6) * 1000000 := by
      rw [← Nat.pow_add 10 (digits.length - 6) 6, Nat.sub_add_cancel hlong]
    have hrest : Text.digitsValue (digits.drop 6) < 10 ^ (digits.length - 6) := by
      have hlt := Text.digitsValue_lt (s := digits.drop 6) fun c hc =>
        hdigits c (List.mem_of_mem_drop hc)
      rwa [List.length_drop] at hlt
    have hvalue : Text.digitsValue digits =
        10 ^ (digits.length - 6) * Text.digitsValue (digits.take 6) +
          Text.digitsValue (digits.drop 6) := by
      conv_lhs => rw [← List.take_append_drop 6 digits]
      rw [Text.digitsValue_append, List.length_drop, Nat.mul_comm]
    rw [hpower, Nat.mul_div_mul_right _ _ (by decide), hvalue,
      Nat.mul_add_div (Nat.pow_pos (by decide)), Nat.div_eq_of_lt hrest, Nat.add_zero,
      Nat.sub_eq_zero_of_le hlong, Nat.pow_zero, Nat.mul_one]

theorem floor_fractionValue : ⌊w.fractionValue * 1000000⌋ = fractionMicros w.fraction := by
  rw [fractionValue]
  cases hfraction : w.fraction with
  | none => simp [fractionMicros_none]
  | some digits =>
      have hdigits := (WrittenNumeral.isDigit_of_isDigits (w.isDigits_fraction digits hfraction)).2
      have hquotient : (Text.digitsValue digits / 10 ^ digits.length * 1000000 : ℚ) =
          ((Text.digitsValue digits * 1000000 : Nat) : Int) / ((10 ^ digits.length : Nat) : ℚ) := by
        push_cast
        exact div_mul_eq_mul_div _ _ _
      simp only [hquotient, Rat.floor_intCast_div_natCast, ← digitsValue_mul_div hdigits]
      rfl

theorem micros_eq : w.micros = w.seconds * 1000000 + fractionMicros w.fraction := by
  obtain ⟨hyear, hmonth⟩ : 1 ≤ w.date.year ∧ 1 ≤ w.date.month := by
    have hvalid := w.isValid_date
    simp only [Date.isValid, Bool.and_eq_true, decide_eq_true_eq] at hvalid
    omega
  rw [micros, seconds, Date.dayNumber_eq_daysBefore hyear hmonth]
  simp only [clock, Clock.total]
  omega

/-- The number of microseconds is the truncated instant. -/
theorem truncated_eq : w.truncated = w.micros / 1000000 := by
  rw [truncated, floor_fractionValue, micros_eq, eq_div_iff (by decide)]
  push_cast
  linarith

/-- The whole part of the millionfold instant is the number of microseconds. -/
theorem floor_instant : ⌊w.instant * 1000000⌋ = w.micros := by
  have hseconds : w.instant * 1000000 =
      ((w.seconds * 1000000 : Int) : ℚ) + w.fractionValue * 1000000 := by
    rw [instant]
    push_cast
    exact add_mul _ _ _
  rw [hseconds, Int.floor_intCast_add, floor_fractionValue, micros_eq]

theorem truncated_eq_iff : w.truncated = w'.truncated ↔ w.micros = w'.micros := by
  rw [truncated_eq, truncated_eq, div_left_inj' (by decide), Int.cast_inj]

theorem isCovered_iff : w.IsCovered ↔ 0 ≤ w.micros ∧ w.micros < Timestamp.limit := by
  have hdays : (⟨10000, 1, 1⟩ : Date).daysBefore = 3652059 := by
    rw [← Date.dayNumber_eq_daysBefore (by decide) (by decide)]
    rfl
  have hlimit : ((Timestamp.limit : Int) : ℚ) = 315537897600 * 1000000 := by
    rw [Timestamp.limit]
    norm_num
  rw [IsCovered, truncated_eq, hdays, le_div_iff₀ (by decide), zero_mul, div_lt_iff₀ (by decide),
    Int.cast_nonneg_iff, ← Int.cast_lt (R := ℚ), hlimit]
  push_cast
  rfl

/-- Truncation keeps the order of instants. -/
theorem micros_le_micros (h : w.instant ≤ w'.instant) : w.micros ≤ w'.micros := by
  rw [← floor_instant, ← floor_instant]
  exact Int.floor_le_floor (mul_le_mul_of_nonneg_right h (by decide))

/-! ## Reading -/

/-- A point in time denotes its number of microseconds, with nothing cut off. -/
theorem instant_written (t : Timestamp) : t.written.instant = (t.micros : Int) / 1000000 := by
  have hfraction : t.written.fractionValue = (t.fraction : ℚ) / 1000000 := by
    have hdigits : t.written.fraction = t.fractionDigits := rfl
    rw [fractionValue, hdigits, fractionDigits]
    by_cases hzero : t.fraction = 0
    · simp only [hzero, if_true, Nat.cast_zero, zero_div]
    · simp only [hzero, if_false, Text.digitsValue_ofNatPadded,
        Text.length_ofNatPadded (by decide : 0 < 6) t.fraction_lt]
      norm_num
  have hmicros := t.written.micros_eq
  rw [show t.written.fraction = t.fractionDigits from rfl, fractionMicros_fractionDigits,
    micros_written] at hmicros
  rw [instant, hfraction, hmicros, eq_div_iff (by decide)]
  push_cast
  linarith

variable {w w'} {before after before' after' : Text}

/-- A timestamp whose instant is covered is read as this instant, to the microsecond. -/
theorem exists_parse_eq_ok (hbefore : before.IsBlank) (hafter : after.IsBlank) (h : w.IsCovered) :
    ∃ t, parse (before ++ w.text ++ after) = .ok t ∧ (t.micros : Int) = w.micros := by
  obtain ⟨hlow, hhigh⟩ := w.isCovered_iff.mp h
  have ht : ofMicros? w.micros = some ⟨w.micros.toNat, by omega⟩ := dif_pos ⟨hlow, hhigh⟩
  exact ⟨_, by rw [w.parse_text hbefore hafter, ht], ofMicros?_eq_some_iff.mp ht⟩

/-- Two timestamps in full are read as the instants that they denote, cut off to microseconds:
the date and the time of day that are read denote it in universal time. So the same instant is read
whatever the offset, and in the order of the instants what is read does not fall. -/
theorem parse_reads_instants (hbefore : before.IsBlank) (hafter : after.IsBlank) (h : w.IsCovered)
    (hbefore' : before'.IsBlank) (hafter' : after'.IsBlank) (h' : w'.IsCovered) :
    ∃ t t' : Timestamp,
      parse (before ++ w.text ++ after) = .ok t ∧ parse (before' ++ w'.text ++ after') = .ok t' ∧
      t.written.instant = w.truncated ∧ t'.written.instant = w'.truncated ∧
      (w.instant = w'.instant → t = t') ∧
      (w.instant ≤ w'.instant → t.micros ≤ t'.micros) ∧
      (t.micros < t'.micros → w.instant < w'.instant) ∧
      (t = t' ↔ w.truncated = w'.truncated) := by
  obtain ⟨t, hread, ht⟩ := exists_parse_eq_ok hbefore hafter h
  obtain ⟨t', hread', ht'⟩ := exists_parse_eq_ok hbefore' hafter' h'
  have heq : t = t' ↔ w.truncated = w'.truncated := by
    rw [truncated_eq_iff, ← ht, ← ht', Int.natCast_inj]
    exact ⟨fun h => h ▸ rfl, fun h => by cases t; cases t'; cases h; rfl⟩
  have hle (hinstant : w.instant ≤ w'.instant) : t.micros ≤ t'.micros := by
    have hmicros := micros_le_micros w w' hinstant
    omega
  refine ⟨t, t', hread, hread', ?_, ?_, ?_, hle, ?_, heq⟩
  · rw [instant_written, ht, truncated_eq]
  · rw [instant_written, ht', truncated_eq]
  · intro hinstant
    rw [heq, truncated_eq_iff, ← floor_instant, ← floor_instant, hinstant]
  · intro hlt
    by_contra hge
    have hmicros := micros_le_micros w' w (not_lt.mp hge)
    omega

/-- In the night to March of a leap year, two hours and a quarter ahead of universal time. -/
def leapNight : WrittenTimestamp where
  date := ⟨2024, 3, 1⟩
  mark := 't'
  hour := 1
  minute := 30
  second := 5
  fraction := some "1234567"
  offset := .apart false 2 15 (by decide) (by decide)
  isValid_date := rfl
  isMark := .inr (.inl rfl)
  hour_lt := by decide
  minute_lt := by decide
  second_lt := by decide
  isDigits_fraction digits hdigits := by cases hdigits; rfl

/-- The same microsecond in universal time, which is still in February. -/
def leapEvening : WrittenTimestamp where
  date := ⟨2024, 2, 29⟩
  mark := ' '
  hour := 23
  minute := 15
  second := 5
  fraction := some "12345699"
  offset := .universal true
  isValid_date := rfl
  isMark := .inr (.inr rfl)
  hour_lt := by decide
  minute_lt := by decide
  second_lt := by decide
  isDigits_fraction digits hdigits := by cases hdigits; rfl

theorem parse_reads_leap_night : ∃ t : Timestamp,
    parse "\t2024-03-01t01:30:05.1234567+02:15 " = .ok t ∧
    parse "2024-02-29 23:15:05.12345699z\n" = .ok t ∧ t.written.instant = leapNight.truncated := by
  have hnight : leapNight.IsCovered := leapNight.isCovered_iff.mpr (by decide +kernel)
  have hevening : leapEvening.IsCovered := leapEvening.isCovered_iff.mpr (by decide +kernel)
  have hsame : leapNight.truncated = leapEvening.truncated :=
    (truncated_eq_iff _ _).mpr (by decide +kernel)
  have htab : Text.IsBlank ['\t'] := List.forall_mem_singleton.mpr rfl
  have hspace : Text.IsBlank [' '] := List.forall_mem_singleton.mpr rfl
  have hnothing : Text.IsBlank [] := List.forall_mem_nil _
  have hlineEnd : Text.IsBlank ['\n'] := List.forall_mem_singleton.mpr rfl
  obtain ⟨t, t', hread, hread', hinstant, -, -, -, -, heq⟩ :=
    parse_reads_instants htab hspace hnight hnothing hlineEnd hevening
  obtain rfl := heq.mpr hsame
  exact ⟨t, hread, hread', hinstant⟩

end WrittenTimestamp

end ContentQuery
