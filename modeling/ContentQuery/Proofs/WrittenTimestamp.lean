import ContentQuery.Proofs.CalendarDays
import ContentQuery.Proofs.Words
import ContentQuery.Proofs.WrittenLiteral
import ContentQuery.Timestamp.Reader

/-!
# ContentQuery.Proofs.WrittenTimestamp

Timestamps as they are written in full: a date, a mark, a time of day with any number of digits
behind the seconds, and an offset. Each is read as the number of its microseconds, with what is
smaller cut off, whatever white space is around it.
-/

namespace ContentQuery

namespace Timestamp

/-! ## Numbers of fixed width -/

theorem digits?_append {digits : Text} (hdigits : ∀ c ∈ digits, c.isDigit = true) (rest : Text) :
    digits? digits.length (digits ++ rest) = some (Text.digitsValue digits, rest) := by
  have hall : digits.all CodePoint.isDigit = true := List.all_eq_true.mpr hdigits
  simp only [digits?, List.take_left, List.drop_left, hall, decide_true, Bool.and_self, if_true]

/-- A number that has been filled up with zeros is read from its digits. -/
theorem digits?_ofNatPadded {width n : Nat} (hwidth : 0 < width) (hn : n < 10 ^ width)
    (rest : Text) :
    digits? width (Text.ofNatPadded width n ++ rest) = some (n, rest) := by
  have hread : digits? (Text.ofNatPadded width n).length (Text.ofNatPadded width n ++ rest) =
      some (Text.digitsValue (Text.ofNatPadded width n), rest) :=
    digits?_append (fun _ hc => Text.isDigit_of_mem_ofNatPadded hc) rest
  rwa [Text.length_ofNatPadded hwidth hn, Text.digitsValue_ofNatPadded] at hread

/-- The digits of a number begin with a digit. -/
theorem exists_ofNatPadded_eq_cons (width n : Nat) :
    ∃ d digits, Text.ofNatPadded width n = d :: digits ∧ d.isDigit = true := by
  obtain ⟨d, digits, hdigits⟩ := List.exists_cons_of_ne_nil (Text.ofNatPadded_ne_nil width n)
  exact ⟨d, digits, hdigits,
    Text.isDigit_of_mem_ofNatPadded (hdigits ▸ List.mem_cons_self)⟩

/-! ## Dates -/

/-- A date as `yyyy-mm-dd`. -/
def dateWritten (date : Date) : Text :=
  Text.ofNatPadded 4 date.year ++ ('-' : CodePoint) :: (Text.ofNatPadded 2 date.month ++
    ('-' : CodePoint) :: Text.ofNatPadded 2 date.day)

/-- Whether the numbers of a date have few enough digits to be written with fixed widths. -/
structure IsNarrow (date : Date) : Prop where
  year : date.year < 10 ^ 4
  month : date.month < 10 ^ 2
  day : date.day < 10 ^ 2

theorem isNarrow_of_isValid {date : Date} (h : date.isValid = true) : IsNarrow date := by
  have hdays : Calendar.daysInMonth date.year date.month ≤ 31 := by
    unfold Calendar.daysInMonth
    split
    · split <;> decide
    · split <;> decide
  have hmax : Date.maxYear = 9999 := rfl
  simp only [Date.isValid, Bool.and_eq_true, decide_eq_true_eq] at h
  exact ⟨by omega, by omega, by omega⟩

theorem length_dateWritten {date : Date} (h : IsNarrow date) : (dateWritten date).length = 10 := by
  simp only [dateWritten, List.length_append, List.length_cons,
    Text.length_ofNatPadded (by decide : 0 < 4) h.year,
    Text.length_ofNatPadded (by decide : 0 < 2) h.month,
    Text.length_ofNatPadded (by decide : 0 < 2) h.day]

theorem readDate_dateWritten {date : Date} (h : IsNarrow date) :
    readDate (dateWritten date) = some date := by
  obtain ⟨d, digits, hmonth, hd⟩ := exists_ofNatPadded_eq_cons 2 date.month
  have hweek : d ≠ 'W' := by
    rintro rfl
    exact absurd hd (by decide)
  have hday := digits?_ofNatPadded (by decide) h.day []
  rw [List.append_nil] at hday
  have hmark : List.head? (('-' : CodePoint) :: (Text.ofNatPadded 2 date.month ++
      ('-' : CodePoint) :: Text.ofNatPadded 2 date.day)) = some ('-' : CodePoint) := rfl
  rw [readDate, dateWritten]
  simp only [digits?_ofNatPadded (by decide : 0 < 4) h.year, Option.bind_eq_bind, Option.bind_some,
    if_pos hmark, skip?, if_true]
  rw [hmonth]
  simp only [List.cons_append, if_neg hweek]
  rw [← List.cons_append, ← hmonth]
  simp only [digits?_ofNatPadded (by decide : 0 < 2) h.month, Option.bind_some, if_true, hday]

/-- A date in digits is ten characters long, whatever follows it. -/
theorem dateLength?_dateWritten {date : Date} (h : IsNarrow date) (rest : Text) :
    dateLength? (dateWritten date ++ rest) = some 10 := by
  obtain ⟨d, digits, hmonth, hd⟩ := exists_ofNatPadded_eq_cons 2 date.month
  have hyear := Text.length_ofNatPadded (by decide : 0 < 4) h.year
  have hseven : (dateWritten date ++ rest).length ≠ 7 := by
    rw [List.length_append, length_dateWritten h]
    omega
  have hweek : d ≠ 'W' := by
    rintro rfl
    exact absurd hd (by decide)
  have hfour : (dateWritten date ++ rest)[4]? = some ('-' : CodePoint) := by
    rw [dateWritten, List.append_assoc, List.getElem?_append_right (by omega), hyear]
    rfl
  have hfive : (dateWritten date ++ rest)[5]? = some d := by
    rw [dateWritten, List.append_assoc, List.getElem?_append_right (by omega), hyear, hmonth]
    rfl
  rw [dateLength?, if_neg hseven]
  simp [hfour, hfive, hweek]

/-! ## Times of day -/

variable {value : Nat} {rest : Text}

/-- The microseconds of the digits behind the seconds; digits beyond the sixth do not count. -/
def fractionMicros (fraction : Option Text) : Nat :=
  Text.digitsValue ((fraction.getD []).take 6) * 10 ^ (6 - (fraction.getD []).length)

theorem fractionMicros_none : fractionMicros none = 0 := Nat.zero_mul _

/-- Up to six digits count as many microseconds as they and zeros behind them denote. -/
theorem readFraction_digits {digits : Text} (hdigits : ∀ c ∈ digits, c.isDigit = true)
    (hlength : digits.length ≤ 6) :
    readFraction digits = some (fractionMicros (some digits), false) := by
  have hread := digits?_append hdigits []
  rw [List.append_nil] at hread
  rw [readFraction, Nat.min_eq_right hlength, hread, fractionMicros, Option.getD_some,
    List.take_of_length_le hlength]
  rfl

/-- A number of two digits and a colon are read, and then the numbers behind the colon. -/
theorem readFields_colon {fields : Nat} {colons : Option Bool} {values : List Nat}
    {others : Nat × Bool} (hvalue : value < 10 ^ 2) (hrest : rest ≠ [])
    (hcolons : colons ≠ some false)
    (h : readFields fields (some true) rest = some (values, others)) :
    readFields (fields + 1) colons (Text.ofNatPadded 2 value ++ (':' : CodePoint) :: rest) =
      some (value :: values, others) := by
  have hgiven : colons.getD true = true := by
    cases colons with
    | none => rfl
    | some given =>
        cases given with
        | true => rfl
        | false => exact absurd rfl hcolons
  rw [readFields, digits?_ofNatPadded (by decide) hvalue]
  simp [hrest, hgiven, h]

/-- The last number is read with the digits behind a point, if there are any. -/
theorem readFields_last {fields : Nat} {fraction : Option Text} (hvalue : value < 10 ^ 2)
    (hfraction : ∀ digits ∈ fraction, Decimal.isDigits digits = true ∧ digits.length ≤ 6) :
    readFields (fields + 1) (some true)
        (Text.ofNatPadded 2 value ++ WrittenNumeral.fractionText fraction) =
      some ([value], fractionMicros fraction, false) := by
  rw [readFields, digits?_ofNatPadded (by decide) hvalue]
  cases fraction with
  | none =>
      rw [fractionMicros_none]
      rfl
  | some digits =>
      obtain ⟨hisDigits, hlength⟩ := hfraction digits rfl
      obtain ⟨hne, hdigits⟩ := WrittenNumeral.isDigit_of_isDigits hisDigits
      have hcolon : ('.' : CodePoint) ≠ (':' : CodePoint) := by decide
      simp [WrittenNumeral.fractionText, hne, hcolon, readFraction_digits hdigits hlength]

/-- The time of day to the seconds, as `hh:mm:ss`. -/
def clockWritten (hour minute second : Nat) : Text :=
  Text.ofNatPadded 2 hour ++ (':' : CodePoint) :: (Text.ofNatPadded 2 minute ++
    (':' : CodePoint) :: Text.ofNatPadded 2 second)

theorem readClock_clockWritten {hour minute second : Nat} {fraction : Option Text}
    (hhour : hour < 10 ^ 2) (hminute : minute < 10 ^ 2) (hsecond : second < 10 ^ 2)
    (hfraction : ∀ digits ∈ fraction, Decimal.isDigits digits = true ∧ digits.length ≤ 6) :
    readClock (clockWritten hour minute second ++ WrittenNumeral.fractionText fraction) =
      some ⟨hour, minute, second, fractionMicros fraction, false⟩ := by
  have hminutes : readFields 2 (some true) (Text.ofNatPadded 2 minute ++ (':' : CodePoint) ::
      (Text.ofNatPadded 2 second ++ WrittenNumeral.fractionText fraction)) =
      some ([minute, second], fractionMicros fraction, false) :=
    readFields_colon hminute (by simp [Text.ofNatPadded_ne_nil]) (by decide)
      (readFields_last hsecond hfraction)
  have hfields : readFields 3 none (Text.ofNatPadded 2 hour ++ (':' : CodePoint) ::
      (Text.ofNatPadded 2 minute ++ (':' : CodePoint) ::
        (Text.ofNatPadded 2 second ++ WrittenNumeral.fractionText fraction))) =
      some ([hour, minute, second], fractionMicros fraction, false) :=
    readFields_colon hhour (by simp) (by decide) hminutes
  rw [clockWritten, List.append_assoc, List.cons_append, List.append_assoc, List.cons_append,
    readClock, hfields]
  rfl

end Timestamp

/-! ## Offsets -/

/-- How far a written time is from universal time: not at all, which a letter says that may be
small, or by hours and minutes that it is ahead or behind. -/
inductive WrittenOffset where
  | universal (small : Bool)
  | apart (behind : Bool) (hours minutes : Nat) (hours_lt : hours < 24) (minutes_lt : minutes < 60)

namespace WrittenOffset

/-- The sign of an offset. -/
def sign (behind : Bool) : CodePoint := if behind then '-' else '+'

/-- The text of an offset in hours and minutes. -/
def apartText (behind : Bool) (hours minutes : Nat) : Text :=
  sign behind :: (Text.ofNatPadded 2 hours ++
    (':' : CodePoint) :: Text.ofNatPadded 2 minutes)

def text : WrittenOffset → Text
  | universal small => if small then ['z'] else ['Z']
  | apart behind hours minutes _ _ => apartText behind hours minutes

/-- No offset, in hours and minutes. -/
def zero : WrittenOffset := apart false 0 0 (by decide) (by decide)

/-- The offset with a letter written out in hours and minutes. -/
def inDigits : WrittenOffset → WrittenOffset
  | universal _ => zero
  | apart behind hours minutes hours_lt minutes_lt => apart behind hours minutes hours_lt minutes_lt

/-- The minutes that a time is ahead of universal time. -/
def minutesAhead : WrittenOffset → Int
  | universal _ => 0
  | apart behind hours minutes _ _ =>
    if behind then -(60 * hours + minutes : Nat) else (60 * hours + minutes : Nat)

open Timestamp in
theorem readOffset_apartText (behind : Bool) {hours minutes : Nat} (hhours : hours < 24)
    (hminutes : minutes < 60) :
    readOffset (sign behind) (Text.ofNatPadded 2 hours ++
      (':' : CodePoint) :: Text.ofNatPadded 2 minutes) =
        some ((if behind then -(60 * hours + minutes : Nat)
          else (60 * hours + minutes : Nat) : Int) * 60000000) := by
  have hlast : readFields 2 (some true) (Text.ofNatPadded 2 minutes) =
      some ([minutes], 0, false) := by
    have h : readFields 2 (some true)
        (Text.ofNatPadded 2 minutes ++ WrittenNumeral.fractionText none) =
          some ([minutes], fractionMicros none, false) :=
      readFields_last (by omega) fun _ hdigits => absurd hdigits (Option.not_mem_none _)
    rwa [WrittenNumeral.fractionText.eq_1, List.append_nil, fractionMicros_none] at h
  have hclock : readClock (Text.ofNatPadded 2 hours ++
      (':' : CodePoint) :: Text.ofNatPadded 2 minutes) = some ⟨hours, minutes, 0, 0, false⟩ := by
    rw [readClock,
      readFields_colon (by omega) (Text.ofNatPadded_ne_nil 2 minutes) (by decide) hlast]
    rfl
  have htotal : (Clock.mk hours minutes 0 0 false).total = (60 * hours + minutes) * 60000000 := by
    simp only [Clock.total]
    omega
  have hsign : sign behind ≠ 'Z' := by cases behind <;> decide
  have hday : ¬ (false || decide (86400000000 ≤ (60 * hours + minutes) * 60000000)) = true := by
    rw [Bool.false_or, decide_eq_true_eq]
    omega
  rw [readOffset, if_neg hsign, hclock, Option.bind_eq_bind, Option.bind_some, htotal, if_neg hday]
  -- An offset of less than a second is none at all; of whole minutes only zero is that small.
  by_cases hzero : 60 * hours + minutes = 0
  · have hsmall : (60 * hours + minutes) * 60000000 < 1000000 := by omega
    rw [if_pos hsmall, hzero]
    cases behind <;> rfl
  · have hlarge : ¬ (60 * hours + minutes) * 60000000 < 1000000 := by omega
    rw [if_neg hlarge]
    cases behind with
    | true =>
        rw [sign, if_pos rfl, if_pos rfl, if_pos rfl, Int.neg_mul]
        rfl
    | false => rfl

end WrittenOffset

/-! ## Timestamps -/

/-- A timestamp in full: a date, a letter or a space, a time of day, perhaps with a point and digits
behind the seconds, and an offset. -/
structure WrittenTimestamp where
  date : Date
  mark : CodePoint
  hour : Nat
  minute : Nat
  second : Nat
  fraction : Option Text
  offset : WrittenOffset
  isValid_date : date.isValid = true
  isMark : mark = 'T' ∨ mark = 't' ∨ mark = ' '
  hour_lt : hour < 24
  minute_lt : minute < 60
  second_lt : second < 60
  isDigits_fraction : ∀ digits ∈ fraction, Decimal.isDigits digits = true

namespace WrittenTimestamp

open Timestamp
open WrittenNumeral (isDigit_of_isDigits)

variable (w : WrittenTimestamp)

/-- What stands before the digits behind the seconds. -/
def front : Text := dateWritten w.date ++ w.mark :: clockWritten w.hour w.minute w.second

def text : Text := w.front ++ (WrittenNumeral.fractionText w.fraction ++ w.offset.text)

/-- The timestamp with six digits behind the seconds at most, and its offset in digits. -/
def normal : WrittenTimestamp where
  __ := w
  fraction := w.fraction.map (List.take 6)
  offset := w.offset.inDigits
  isDigits_fraction digits hdigits := by
    obtain ⟨whole, hwhole, rfl⟩ := Option.mem_map.mp hdigits
    obtain ⟨hne, hwhole⟩ := isDigit_of_isDigits (w.isDigits_fraction whole hwhole)
    exact WrittenNumeral.isDigits_iff.mpr
      ⟨by simp [hne], fun c hc => hwhole c (List.mem_of_mem_take hc)⟩

theorem normal_fraction : w.normal.fraction = w.fraction.map (List.take 6) := rfl

theorem normal_offset : w.normal.offset = w.offset.inDigits := rfl

/-- The time of day, to the microsecond. -/
def clock : Clock := ⟨w.hour, w.minute, w.second, fractionMicros w.fraction, false⟩

/-- The microseconds from the beginning of year 1 in universal time. -/
def micros : Int :=
  (w.date.dayNumber * 86400000000 + w.clock.total : Nat) - w.offset.minutesAhead * 60000000

/-! ## Normal form -/

/-- What stands between the digits of a timestamp, points apart. -/
def marks : List CodePoint := ['-', ':', '+', 'T', 't', ' ', 'Z', 'z']

/-- The characters of a timestamp, points apart. -/
def isPart (c : CodePoint) : Bool := c.isDigit || marks.contains c

theorem isPart_of_isDigit {c : CodePoint} (h : c.isDigit = true) : isPart c = true := by
  rw [isPart, h]
  rfl

theorem isPart_of_mem_ofNatPadded {width n : Nat} :
    ∀ c ∈ Text.ofNatPadded width n, isPart c = true :=
  fun _ hc => isPart_of_isDigit (Text.isDigit_of_mem_ofNatPadded hc)

theorem ne_point_and_isSurrogate_of_isPart {c : CodePoint} (h : isPart c = true) :
    c ≠ '.' ∧ c.isSurrogate = false := by
  rw [isPart, Bool.or_eq_true] at h
  rcases h with hdigit | hmark
  · refine ⟨?_, CodePoint.isSurrogate_of_isDigit hdigit⟩
    rintro rfl
    exact absurd hdigit (by decide)
  · have hall : (marks.all fun c => c ≠ '.' && !c.isSurrogate) = true := rfl
    simpa using List.all_eq_true.mp hall c (List.contains_iff_mem.mp hmark)

theorem isDigit_or_colon_of_mem_clockWritten {hour minute second : Nat} :
    ∀ c ∈ clockWritten hour minute second, c.isDigit = true ∨ c = ':' := by
  have hdigit {n : Nat} : ∀ c ∈ Text.ofNatPadded 2 n, c.isDigit = true ∨ c = ':' :=
    fun c hc => .inl (Text.isDigit_of_mem_ofNatPadded hc)
  exact List.forall_mem_append.mpr ⟨hdigit, List.forall_mem_cons.mpr ⟨.inr rfl,
    List.forall_mem_append.mpr ⟨hdigit, List.forall_mem_cons.mpr ⟨.inr rfl, hdigit⟩⟩⟩⟩

theorem isPart_of_mem_front : ∀ c ∈ w.front, isPart c = true := by
  have hdate : ∀ c ∈ dateWritten w.date, isPart c = true :=
    List.forall_mem_append.mpr ⟨isPart_of_mem_ofNatPadded, List.forall_mem_cons.mpr ⟨rfl,
      List.forall_mem_append.mpr ⟨isPart_of_mem_ofNatPadded, List.forall_mem_cons.mpr ⟨rfl,
        isPart_of_mem_ofNatPadded⟩⟩⟩⟩
  have hmark : isPart w.mark = true := by
    rcases w.isMark with h | h | h <;> rw [h] <;> rfl
  have hclock : ∀ c ∈ clockWritten w.hour w.minute w.second, isPart c = true := by
    intro c hc
    rcases isDigit_or_colon_of_mem_clockWritten c hc with hdigit | rfl
    · exact isPart_of_isDigit hdigit
    · rfl
  exact List.forall_mem_append.mpr ⟨hdate, List.forall_mem_cons.mpr ⟨hmark, hclock⟩⟩

/-- The offset begins with a mark and has no point. -/
theorem isPart_of_mem_apartText {behind : Bool} {hours minutes : Nat} :
    ∀ c ∈ WrittenOffset.apartText behind hours minutes, isPart c = true := by
  have hsign : isPart (WrittenOffset.sign behind) = true := by cases behind <;> rfl
  exact List.forall_mem_cons.mpr ⟨hsign, List.forall_mem_append.mpr ⟨isPart_of_mem_ofNatPadded,
    List.forall_mem_cons.mpr ⟨rfl, isPart_of_mem_ofNatPadded⟩⟩⟩

end WrittenTimestamp

namespace WrittenOffset

variable (offset : WrittenOffset)

theorem isPart_of_mem_text : ∀ c ∈ offset.text, WrittenTimestamp.isPart c = true := by
  cases offset with
  | universal small => cases small <;> exact List.forall_mem_singleton.mpr rfl
  | apart behind hours minutes _ _ => exact WrittenTimestamp.isPart_of_mem_apartText

/-- An offset in hours and minutes ends with a digit. -/
theorem exists_apartText_eq_concat (behind : Bool) (hours minutes : Nat) :
    ∃ init d, apartText behind hours minutes = init ++ [d] ∧ d.isDigit = true := by
  have hne := Text.ofNatPadded_ne_nil 2 minutes
  have hsplit := (List.dropLast_concat_getLast hne).symm
  refine ⟨sign behind :: (Text.ofNatPadded 2 hours ++ (':' : CodePoint) ::
    (Text.ofNatPadded 2 minutes).dropLast), _, ?_,
    Text.isDigit_of_mem_ofNatPadded (List.getLast_mem hne)⟩
  rw [apartText, List.cons_append, List.append_assoc, List.cons_append, ← hsplit]

/-- In digits every offset is one in hours and minutes. -/
theorem exists_inDigits_eq : ∃ behind hours minutes, hours < 24 ∧ minutes < 60 ∧
    offset.inDigits.text = apartText behind hours minutes ∧
    offset.minutesAhead =
      (if behind then -(60 * hours + minutes : Nat) else (60 * hours + minutes : Nat) : Int) := by
  cases offset with
  | universal small => exact ⟨false, 0, 0, by decide, by decide, rfl, rfl⟩
  | apart behind hours minutes hhours hminutes =>
      exact ⟨behind, hours, minutes, hhours, hminutes, rfl, rfl⟩

end WrittenOffset

namespace Timestamp

/-- Nothing is dropped before the first point. -/
theorem shortenFractions_append {front : Text} (hfront : ∀ c ∈ front, c ≠ '.') (rest : Text) :
    shortenFractions none (front ++ rest) = front ++ shortenFractions none rest := by
  induction front with
  | nil => rfl
  | cons c front ih =>
      obtain ⟨hc, hfront⟩ := List.forall_mem_cons.mp hfront
      rw [List.cons_append, shortenFractions, if_neg hc, ih hfront]
      split <;> rfl

theorem shortenFractions_eq_self {s : Text} (h : ∀ c ∈ s, c ≠ '.') :
    shortenFractions none s = s := by
  have happend := shortenFractions_append h []
  rwa [shortenFractions, List.append_nil] at happend

theorem has_digits_of_isDigit {c : CodePoint} (h : c.isDigit = true) :
    Numeral.digits.has c.val = true := by
  obtain ⟨hfirst, hlast⟩ := CodePoint.isDigit_iff.mp h
  rw [Numeral.digits, Ranges.has, Bool.and_eq_true, Bool.or_eq_true, decide_eq_true_eq,
    decide_eq_true_eq]
  exact ⟨hfirst, .inl hlast⟩

/-- Behind a point six digits stay, and what follows the digits begins anew. -/
theorem shortenFractions_digits {digits rest : Text} {seen : Nat}
    (hdigits : ∀ c ∈ digits, c.isDigit = true)
    (hrest : ∀ c ∈ rest.head?, Numeral.digits.has c.val = false) (hplain : ∀ c ∈ rest, c ≠ '.') :
    shortenFractions (some seen) (digits ++ rest) = digits.take (6 - seen) ++ rest := by
  induction digits generalizing seen with
  | nil =>
      rw [List.take_nil, List.nil_append]
      cases rest with
      | nil => rfl
      | cons c rest =>
          obtain ⟨hc, hplain⟩ := List.forall_mem_cons.mp hplain
          rw [shortenFractions, if_neg hc, hrest c rfl, shortenFractions_eq_self hplain]
          rfl
  | cons d digits ih =>
      obtain ⟨hd, hdigits⟩ := List.forall_mem_cons.mp hdigits
      have hpoint : d ≠ '.' := by
        rintro rfl
        exact absurd hd (by decide)
      rw [List.cons_append, shortenFractions, if_neg hpoint, if_pos (has_digits_of_isDigit hd)]
      split
      · next hseen =>
          rw [ih hdigits, show 6 - seen = 6 - (seen + 1) + 1 by omega, List.take_succ_cons,
            List.cons_append]
      · next hseen =>
          rw [ih hdigits, show 6 - seen = 0 by omega, List.take_zero, List.take_zero]

end Timestamp

namespace WrittenTimestamp

open Timestamp

variable (w : WrittenTimestamp)

theorem shortenFractions_text : shortenFractions none w.text =
    w.front ++ (WrittenNumeral.fractionText w.normal.fraction ++ w.offset.text) := by
  have hpoint {c : CodePoint} (h : isPart c = true) : c ≠ '.' :=
    (ne_point_and_isSurrogate_of_isPart h).1
  have hplain : ∀ c ∈ w.offset.text, c ≠ '.' :=
    fun c hc => hpoint (w.offset.isPart_of_mem_text c hc)
  have hends : ∀ c ∈ w.offset.text.head?, Numeral.digits.has c.val = false := by
    cases w.offset with
    | universal small => cases small <;> (rintro c ⟨⟩; rfl)
    | apart behind hours minutes _ _ => cases behind <;> (rintro c ⟨⟩; rfl)
  rw [text, normal_fraction,
    shortenFractions_append fun c hc => hpoint (w.isPart_of_mem_front c hc)]
  cases hfraction : w.fraction with
  | none => exact congrArg (w.front ++ ·) (shortenFractions_eq_self hplain)
  | some digits =>
      have hdigits := (WrittenNumeral.isDigit_of_isDigits (w.isDigits_fraction digits hfraction)).2
      rw [Option.map_some, WrittenNumeral.fractionText, WrittenNumeral.fractionText,
        List.cons_append, List.cons_append, shortenFractions, if_pos rfl,
        shortenFractions_digits hdigits hends hplain]

/-- A letter at the end is written out, and a digit stays. -/
theorem spellZulu_append (front : Text) (offset : WrittenOffset) :
    spellZulu (front ++ offset.text) = front ++ offset.inDigits.text := by
  cases offset with
  | universal small =>
      have hletter {c : CodePoint} (hc : (c = 'Z' || c = 'z') = true) :
          spellZulu (front ++ [c]) = front ++ WrittenOffset.apartText false 0 0 := by
        rw [spellZulu, List.getLast?_concat]
        simp only [hc, if_true, List.dropLast_concat]
        rfl
      cases small <;> exact hletter rfl
  | apart behind hours minutes _ _ =>
      obtain ⟨init, d, htext, hd⟩ := WrittenOffset.exists_apartText_eq_concat behind hours minutes
      have hletter : ¬ (d = 'Z' || d = 'z') = true := by
        rw [Bool.or_eq_true, decide_eq_true_eq, decide_eq_true_eq]
        rintro (rfl | rfl) <;> exact absurd hd (by decide)
      rw [WrittenOffset.inDigits, WrittenOffset.text, htext, ← List.append_assoc, spellZulu,
        List.getLast?_concat]
      exact if_neg hletter

/-- A timestamp begins with a digit of the year. -/
theorem exists_front_eq_cons : ∃ d rest, w.front = d :: rest ∧ d.isDigit = true := by
  obtain ⟨d, digits, hyear, hd⟩ := exists_ofNatPadded_eq_cons 4 w.date.year
  exact ⟨d, _, by rw [front, dateWritten, hyear, List.cons_append, List.cons_append], hd⟩

/-- It ends with a letter or with a digit of the offset. -/
theorem isInk_of_mem_getLast?_text : ∀ c ∈ w.text.getLast?, c.isInk = true := by
  have hoffset : ∃ init c, w.offset.text = init ++ [c] ∧ c.isInk = true := by
    cases w.offset with
    | universal small => cases small <;> exact ⟨[], _, rfl, rfl⟩
    | apart behind hours minutes _ _ =>
        obtain ⟨init, d, htext, hd⟩ := WrittenOffset.exists_apartText_eq_concat behind hours minutes
        exact ⟨init, d, htext, CodePoint.isInk_of_isDigit hd⟩
  obtain ⟨init, c, htext, hc⟩ := hoffset
  rw [text, htext, ← List.append_assoc, ← List.append_assoc, List.getLast?_concat]
  rintro d ⟨⟩
  exact hc

/-- Whatever white space is around a timestamp, its normal form is read. -/
theorem text_normal {before after : Text} (hbefore : before.IsBlank) (hafter : after.IsBlank) :
    spellZulu (shortenFractions none (before ++ w.text ++ after).trim) = w.normal.text := by
  obtain ⟨d, rest, hfront, hd⟩ := w.exists_front_eq_cons
  have hne : w.text ≠ [] := by
    rw [text, hfront]
    exact List.cons_ne_nil _ _
  have hfirst : w.text.BeginsInk := by
    rw [text, hfront]
    rintro c ⟨⟩
    exact CodePoint.isInk_of_isDigit hd
  rw [Text.trim_between hbefore hafter hne hfirst w.isInk_of_mem_getLast?_text,
    shortenFractions_text, ← List.append_assoc, spellZulu_append, List.append_assoc]
  rfl

/-! ## Reading -/

/-- The digits that are left behind the seconds count as much as all. -/
theorem fractionMicros_normal : fractionMicros w.normal.fraction = fractionMicros w.fraction := by
  rw [normal_fraction]
  cases w.fraction with
  | none => rfl
  | some digits =>
      simp only [fractionMicros, Option.map_some, Option.getD_some, List.take_take, Nat.min_self,
        List.length_take]
      congr 2
      omega

theorem length_le_of_mem_normal {digits : Text} (h : digits ∈ w.normal.fraction) :
    digits.length ≤ 6 := by
  obtain ⟨whole, -, rfl⟩ := Option.mem_map.mp h
  exact List.length_take_le 6 whole

/-- Behind the seconds there is perhaps a point, and then there are digits. -/
theorem isDigit_or_point_of_mem_fractionText :
    ∀ c ∈ WrittenNumeral.fractionText w.fraction, c.isDigit = true ∨ c = '.' := by
  cases hfraction : w.fraction with
  | none => exact List.forall_mem_nil _
  | some digits =>
      have hdigits := (WrittenNumeral.isDigit_of_isDigits (w.isDigits_fraction digits hfraction)).2
      exact List.forall_mem_cons.mpr ⟨.inr rfl, fun c hc => .inl (hdigits c hc)⟩

theorem readTime_normal : readTime (clockWritten w.hour w.minute w.second ++
    (WrittenNumeral.fractionText w.normal.fraction ++ w.normal.offset.text)) =
      some (w.clock.total, w.offset.minutesAhead * 60000000) := by
  obtain ⟨behind, hours, minutes, hhours, hminutes, htext, hahead⟩ := w.offset.exists_inDigits_eq
  have hdigit {c : CodePoint} (hc : c.isDigit = true) : (!isSign c) = true := by
    simp only [isSign, Bool.not_eq_true', Bool.or_eq_false_iff, decide_eq_false_iff_not]
    refine ⟨⟨?_, ?_⟩, ?_⟩ <;> rintro rfl <;> exact absurd hc (by decide)
  have hmarks : ∀ c ∈ clockWritten w.hour w.minute w.second ++
      WrittenNumeral.fractionText w.normal.fraction, (!isSign c) = true := by
    refine List.forall_mem_append.mpr ⟨fun c hc => ?_, fun c hc => ?_⟩
    · rcases isDigit_or_colon_of_mem_clockWritten c hc with hc | rfl
      · exact hdigit hc
      · rfl
    · rcases w.normal.isDigit_or_point_of_mem_fractionText c hc with hc | rfl
      · exact hdigit hc
      · rfl
  have hsign : ∀ c ∈ w.normal.offset.text.head?, (!isSign c) = false := by
    rw [normal_offset, htext]
    cases behind <;> (rintro c ⟨⟩; rfl)
  have hday : w.clock.isTimeOfDay = true := by
    simp [clock, Clock.isTimeOfDay, w.hour_lt, w.minute_lt, w.second_lt]
  have hclock : readClock (clockWritten w.hour w.minute w.second ++
      WrittenNumeral.fractionText w.normal.fraction) = some w.clock := by
    have hhour := w.hour_lt
    have hminute := w.minute_lt
    have hsecond := w.second_lt
    rw [readClock_clockWritten (by omega) (by omega) (by omega) fun digits hdigits =>
      ⟨w.normal.isDigits_fraction digits hdigits, w.length_le_of_mem_normal hdigits⟩,
      fractionMicros_normal]
    rfl
  rw [← List.append_assoc, readTime, Text.takeWhile_append_of_stop hmarks hsign,
    Text.dropWhile_append_of_stop hmarks hsign, hclock, normal_offset, htext, hahead]
  simp only [WrittenOffset.apartText, Option.bind_eq_bind, Option.bind_some, hday,
    WrittenOffset.readOffset_apartText behind hhours hminutes]
  rfl

/-- No character of a timestamp is a surrogate. -/
theorem isSurrogate_of_mem_text : ∀ c ∈ w.text, c.isSurrogate = false := by
  have hpart {c : CodePoint} (h : isPart c = true) : c.isSurrogate = false :=
    (ne_point_and_isSurrogate_of_isPart h).2
  refine List.forall_mem_append.mpr ⟨fun c hc => hpart (w.isPart_of_mem_front c hc),
    List.forall_mem_append.mpr ⟨fun c hc => ?_,
      fun c hc => hpart (w.offset.isPart_of_mem_text c hc)⟩⟩
  rcases w.isDigit_or_point_of_mem_fractionText c hc with hdigit | rfl
  · exact CodePoint.isSurrogate_of_isDigit hdigit
  · rfl

end WrittenTimestamp

namespace Timestamp

/-- Where there is no surrogate, none is replaced. -/
theorem replaceSurrogate_eq_self {s : Text} (h : ∀ c ∈ s, c.isSurrogate = false) :
    replaceSurrogate s = s := by
  have hnone : ∀ i : Nat, (s[i]?.map CodePoint.isSurrogate).getD false = false := by
    intro i
    cases hc : s[i]? with
    | none => rfl
    | some c => exact h c (List.mem_of_getElem? hc)
  rw [replaceSurrogate]
  simp [hnone]

/-- A date and a time of day are read together. -/
theorem readMicros_eq {s time : Text} {length : Nat} {date : Date} {mark : CodePoint} {micros : Nat}
    {offset : Int} (hplain : ∀ c ∈ s, c.isSurrogate = false) (hlong : 7 ≤ s.length)
    (hlength : dateLength? s = some length) (hdate : readDate (s.take length) = some date)
    (hvalid : date.isValid = true) (hdrop : s.drop length = mark :: time)
    (htime : readTime time = some (micros, offset)) :
    readMicros s = some ((date.dayNumber * 86400000000 + micros : Nat) - offset) := by
  have hany : s.any CodePoint.isSurrogate = false :=
    List.any_eq_false.mpr fun c hc => by simp [hplain c hc]
  rw [readMicros, replaceSurrogate_eq_self hplain]
  simp [Nat.not_lt.mpr hlong, hany, hlength, hdate, hvalid, hdrop, htime]

end Timestamp

namespace WrittenTimestamp

open Timestamp

variable (w : WrittenTimestamp)

theorem readMicros_text_normal : readMicros w.normal.text = some w.micros := by
  have hnarrow := isNarrow_of_isValid w.isValid_date
  have hlength := length_dateWritten hnarrow
  have htext : w.normal.text = dateWritten w.date ++ w.mark ::
      (clockWritten w.hour w.minute w.second ++
        (WrittenNumeral.fractionText w.normal.fraction ++ w.normal.offset.text)) := by
    rw [text, front, List.append_assoc, List.cons_append]
    rfl
  have hlong : 7 ≤ w.normal.text.length := by
    rw [htext, List.length_append, hlength]
    omega
  have hdate : readDate (w.normal.text.take 10) = some w.date := by
    rw [htext, ← hlength, List.take_left, readDate_dateWritten hnarrow]
  have hdrop : w.normal.text.drop 10 = w.mark :: (clockWritten w.hour w.minute w.second ++
      (WrittenNumeral.fractionText w.normal.fraction ++ w.normal.offset.text)) := by
    rw [htext, ← hlength, List.drop_left]
  have hten : dateLength? w.normal.text = some 10 := by
    rw [htext, dateLength?_dateWritten hnarrow]
  exact readMicros_eq w.normal.isSurrogate_of_mem_text hlong hten hdate w.isValid_date hdrop
    w.readTime_normal

/-- A timestamp is read as its microseconds, unless these lie outside the years that are covered. -/
theorem parse_text {before after : Text} (hbefore : before.IsBlank) (hafter : after.IsBlank) :
    parse (before ++ w.text ++ after) =
      match ofMicros? w.micros with
      | none => .error .outOfRange
      | some t => .ok t := by
  have hread : readMicros (spellZulu (shortenFractions none (before ++ w.text ++ after).trim)) =
      some w.micros := by
    rw [w.text_normal hbefore hafter, readMicros_text_normal]
  cases ht : ofMicros? w.micros with
  | none => simp only [parse, hread, ht]
  | some t => simp only [parse, hread, ht]

end WrittenTimestamp

end ContentQuery
