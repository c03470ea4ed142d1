import ContentQuery.Proofs.WrittenTimestamp

/-!
# ContentQuery.Proofs.TimestampText

The full text of a point in time is read as that point in time, to the microsecond.
-/

namespace ContentQuery

namespace Timestamp

variable (t : Timestamp)

/-! ## Parts -/

theorem hour_lt : t.hour < 24 := Nat.mod_lt _ (by decide)

theorem minute_lt : t.minute < 60 := Nat.mod_lt _ (by decide)

theorem second_lt : t.second < 60 := Nat.mod_lt _ (by decide)

theorem fraction_lt : t.fraction < 1000000 := Nat.mod_lt _ (by decide)

/-- The date of a point in time is a day of the calendar. -/
theorem isValid_date : t.date.isValid = true ∧ t.date.dayNumber = t.micros / 86400000000 := by
  have hlimit := t.micros_lt
  rw [limit] at hlimit
  exact Date.isValid_and_dayNumber_ofDayNumber (by omega)

/-- A timestamp is made from a number of microseconds exactly if it has this many. -/
theorem ofMicros?_eq_some_iff {micros : Int} {t : Timestamp} :
    ofMicros? micros = some t ↔ (t.micros : Int) = micros := by
  have hlimit := t.micros_lt
  unfold ofMicros?
  split
  · next hin =>
      obtain ⟨count, -⟩ := t
      rw [Option.some.injEq, mk.injEq]
      change micros.toNat = count ↔ (count : Int) = micros
      omega
  · next hout =>
      simp only [reduceCtorEq, false_iff]
      omega

/-! ## The whole text -/

/-- The digits behind the seconds: six of them, or none for whole seconds. -/
def fractionDigits : Option Text :=
  if t.fraction = 0 then none else some (Text.ofNatPadded 6 t.fraction)

/-- The fraction that is written is the one of the written form. -/
theorem fractionText_fractionDigits :
    WrittenNumeral.fractionText t.fractionDigits = t.fractionText := by
  rw [fractionDigits, fractionText]
  split <;> rfl

/-- The digits of the fraction, as far as there are any, denote its microseconds. -/
theorem fractionMicros_fractionDigits : fractionMicros t.fractionDigits = t.fraction := by
  rw [fractionDigits]
  split
  · next hzero => rw [hzero, fractionMicros_none]
  · have hlength := Text.length_ofNatPadded (by decide : 0 < 6) t.fraction_lt
    rw [fractionMicros, Option.getD_some, hlength, List.take_of_length_le (Nat.le_of_eq hlength),
      Text.digitsValue_ofNatPadded, Nat.sub_self, Nat.pow_zero, Nat.mul_one]

/-- A point in time as a timestamp in universal time. -/
def written : WrittenTimestamp where
  date := t.date
  mark := 'T'
  hour := t.hour
  minute := t.minute
  second := t.second
  fraction := t.fractionDigits
  offset := .zero
  isValid_date := t.isValid_date.1
  isMark := .inl rfl
  hour_lt := t.hour_lt
  minute_lt := t.minute_lt
  second_lt := t.second_lt
  isDigits_fraction digits hdigits := by
    rw [fractionDigits, Option.mem_def] at hdigits
    split at hdigits
    · cases hdigits
    · obtain rfl := Option.some.inj hdigits
      exact WrittenNumeral.isDigits_iff.mpr
        ⟨Text.ofNatPadded_ne_nil 6 t.fraction, fun _ hc => Text.isDigit_of_mem_ofNatPadded hc⟩

/-- What is shown of a timestamp is the text of its written form. -/
theorem text_eq_written : t.text = t.written.text := by
  rw [WrittenTimestamp.text, written, fractionText_fractionDigits, text, List.append_assoc,
    List.append_assoc]
  simp only [dateText, clockText, WrittenTimestamp.front, dateWritten, clockWritten,
    List.append_assoc, List.cons_append]
  rfl

/-- The written form of a timestamp denotes its instant. -/
theorem micros_written : t.written.micros = t.micros := by
  have hday := t.isValid_date.2
  have hclock : t.written.clock.total =
      ((t.hour * 60 + t.minute) * 60 + t.second) * 1000000 + t.fraction := by
    rw [WrittenTimestamp.clock, written, fractionMicros_fractionDigits]
    rfl
  have hoffset : t.written.offset.minutesAhead = 0 := rfl
  have hdate : t.written.date = t.date := rfl
  rw [WrittenTimestamp.micros, hclock, hoffset, hdate, hday]
  simp only [hour, minute, second, fraction]
  omega

/-- The text begins with a digit of the year. -/
theorem exists_text_eq_cons : ∃ d rest, t.text = d :: rest ∧ d.isDigit = true := by
  obtain ⟨d, rest, hfront, hd⟩ := t.written.exists_front_eq_cons
  exact ⟨d, _, by rw [text_eq_written, WrittenTimestamp.text, hfront, List.cons_append], hd⟩

/-- A timestamp is shown without any half of a character. -/
theorem isSurrogate_of_mem_text {c : CodePoint} (h : c ∈ t.text) : c.isSurrogate = false :=
  t.written.isSurrogate_of_mem_text c (t.text_eq_written ▸ h)

/-- The text of a point in time is read as that point in time. -/
theorem parse_text : parse t.text = .ok t := by
  have hread := t.written.parse_text (List.forall_mem_nil _) (List.forall_mem_nil _)
  rw [List.nil_append, List.append_nil, micros_written, ofMicros?_eq_some_iff.mpr rfl] at hread
  rw [text_eq_written, hread]

end Timestamp

end ContentQuery
