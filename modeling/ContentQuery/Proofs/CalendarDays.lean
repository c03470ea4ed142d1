import ContentQuery.Calendar
import Mathlib.Data.List.Basic

/-!
# ContentQuery.Proofs.CalendarDays

The calendar counts days without gaps: the date of a day exists, and its number is that of the day.
-/

namespace ContentQuery

namespace Calendar

/-- The number of days of a year. -/
def daysInYear (year : Nat) : Nat := if isLeap year then 366 else 365

theorem daysBeforeMonth_succ {year month : Nat} (h : 1 ≤ month) :
    daysBeforeMonth year (month + 1) = daysBeforeMonth year month + daysInMonth year month := by
  obtain ⟨before, rfl⟩ := Nat.exists_eq_add_of_le' h
  have hsum (days : List Nat) (last : Nat) :
      (days ++ [last]).foldr (· + ·) 0 = days.foldr (· + ·) 0 + last := by
    induction days with
    | nil => simp
    | cons first days ih =>
        rw [List.cons_append, List.foldr_cons, ih, List.foldr_cons, Nat.add_assoc]
  rw [daysBeforeMonth, daysBeforeMonth, Nat.add_sub_cancel, Nat.add_sub_cancel, List.range_succ,
    List.map_append, List.map_singleton, hsum]

/-- A year is over after its twelfth month. -/
theorem daysBeforeMonth_thirteen (year : Nat) : daysBeforeMonth year 13 = daysInYear year := by
  have hmonths : daysBeforeMonth year 13 = 337 + daysInMonth year 2 := by
    simp [daysBeforeMonth, daysInMonth, List.range_succ]
    omega
  rw [hmonths, daysInYear, daysInMonth, if_pos rfl]
  split <;> rfl

/-- The number of days before a year, told from its place in the cycle of 400 years, in its century
and among four years. -/
theorem daysBeforeYear_eq {cycle century four single : Nat} (hcentury : century ≤ 3)
    (hfour : four ≤ 24) (hsingle : single ≤ 3) :
    daysBeforeYear (400 * cycle + 100 * century + 4 * four + single + 1) =
      146097 * cycle + 36524 * century + 1461 * four + 365 * single := by
  simp only [daysBeforeYear, Nat.add_sub_cancel]
  omega

end Calendar

namespace Date

open Calendar

/-- Going through the months from one on finds the month and the day of the month of a day that
comes before they are over. -/
theorem exists_monthAndDay_eq {year months month day : Nat} (hmonth : 1 ≤ month)
    (h : daysBeforeMonth year month + day < daysBeforeMonth year (month + months)) :
    ∃ found before, monthAndDay year months month day = (found, before + 1) ∧
      month ≤ found ∧ found < month + months ∧ before < daysInMonth year found ∧
      daysBeforeMonth year found + before = daysBeforeMonth year month + day := by
  induction months generalizing month day with
  | zero =>
      rw [Nat.add_zero] at h
      omega
  | succ months ih =>
      rw [monthAndDay]
      split
      · next hday => exact ⟨month, day, rfl, Nat.le_refl _, by omega, hday, rfl⟩
      · next hday =>
          have hnext : daysBeforeMonth year (month + 1) =
              daysBeforeMonth year month + daysInMonth year month := daysBeforeMonth_succ hmonth
          have hlater : daysBeforeMonth year (month + 1) + (day - daysInMonth year month) <
              daysBeforeMonth year (month + 1 + months) := by
            rw [← Nat.add_assoc, Nat.add_right_comm] at h
            omega
          obtain ⟨found, before, hfound, hfirst, hlast, hin, hdays⟩ :=
            ih (Nat.le_add_left 1 month) hlater
          exact ⟨found, before, hfound, by omega, by omega, hin, by omega⟩

/-- A day of a year, counted from the first one, and the date that it has. -/
theorem exists_ofDayNumber_eq (n : Nat) : ∃ cycle century four single day,
    century ≤ 3 ∧ four ≤ 24 ∧ single ≤ 3 ∧
    n = 146097 * cycle + 36524 * century + 1461 * four + 365 * single + day ∧
    let year := 400 * cycle + 100 * century + 4 * four + single + 1
    day < daysInYear year ∧
      ofDayNumber n = ⟨year, (monthAndDay year 12 1 day).1, (monthAndDay year 12 1 day).2⟩ := by
  let inCycle := n % 146097
  let century := min (inCycle / 36524) 3
  let inCentury := inCycle - century * 36524
  let inFour := inCentury % 1461
  let single := min (inFour / 365) 3
  refine ⟨n / 146097, century, inCentury / 1461, single, inFour - single * 365,
    by omega, by omega, by omega, by omega, ?_, rfl⟩
  rw [daysInYear]
  split
  · omega
  · next hleap =>
      simp only [isLeap, Bool.and_eq_true, Bool.or_eq_true, decide_eq_true_eq, not_and,
        not_or] at hleap
      omega

/-- The date of a day is a day of the calendar with the number of the day. -/
theorem isValid_and_dayNumber_ofDayNumber {n : Nat} (h : n < 3652059) :
    (ofDayNumber n).isValid = true ∧ (ofDayNumber n).dayNumber = n := by
  obtain ⟨cycle, century, four, single, day, hcentury, hfour, hsingle, hn, hday, hdate⟩ :=
    exists_ofDayNumber_eq n
  have hyear := @daysBeforeYear_eq cycle century four single hcentury hfour hsingle
  have hfirstYear : 1 ≤ 400 * cycle + 100 * century + 4 * four + single + 1 := Nat.le_add_left _ _
  have hlastYear : 400 * cycle + 100 * century + 4 * four + single + 1 ≤ maxYear := by
    rw [maxYear]
    omega
  generalize 400 * cycle + 100 * century + 4 * four + single + 1 = year at *
  have hbefore : daysBeforeMonth year 1 + day < daysBeforeMonth year (1 + 12) := by
    rw [daysBeforeMonth_thirteen]
    exact (Nat.zero_add day).symm ▸ hday
  obtain ⟨month, before, hfound, hfirst, hlast, hin, hdays⟩ :=
    exists_monthAndDay_eq (Nat.le_refl 1) hbefore
  rw [hdate, hfound]
  constructor
  · simp only [isValid, Bool.and_eq_true, decide_eq_true_eq]
    exact ⟨⟨⟨⟨⟨hfirstYear, hlastYear⟩, hfirst⟩, by omega⟩, Nat.le_add_left _ _⟩, hin⟩
  · simp only [dayNumber, Nat.add_sub_cancel, hyear]
    have hzero : daysBeforeMonth year 1 = 0 := rfl
    omega

end Date

end ContentQuery
