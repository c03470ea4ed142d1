import ContentQuery.Proofs.CalendarDays
import Mathlib.Algebra.BigOperators.Intervals

/-!
# ContentQuery.Proofs.DayCount

The number of a day is the number of the days before it, counted month by month from the beginning
of year 1.
-/

namespace ContentQuery

namespace Calendar

/-- The next year begins after the days of this one. -/
theorem daysBeforeYear_succ {year : Nat} (h : 1 ≤ year) :
    daysBeforeYear (year + 1) = daysBeforeYear year + daysInYear year := by
  obtain ⟨past, rfl⟩ := Nat.exists_eq_add_of_le' h
  simp only [daysBeforeYear, Nat.add_sub_cancel]
  -- Three remainders tell which of the quotients grow.
  by_cases hfour : (past + 1) % 4 = 0
  · by_cases hcentury : (past + 1) % 100 = 0
    · by_cases hcycle : (past + 1) % 400 = 0
      · have hdays : daysInYear (past + 1) = 366 := by simp [daysInYear, isLeap, hfour, hcycle]
        omega
      · have hdays : daysInYear (past + 1) = 365 := by
          simp [daysInYear, isLeap, hcentury, hcycle]
        omega
    · have hdays : daysInYear (past + 1) = 366 := by simp [daysInYear, isLeap, hfour, hcentury]
      omega
  · have hdays : daysInYear (past + 1) = 365 := by simp [daysInYear, isLeap, hfour]
    have hquarters : (past + 1) / 4 = past / 4 := by omega
    have hcenturies : (past + 1) / 100 = past / 100 := by omega
    have hcycles : (past + 1) / 400 = past / 400 := by omega
    rw [hdays, hquarters, hcenturies, hcycles]
    omega

/-- The months before one in its year have the days before it. -/
theorem sum_daysInMonth {month : Nat} (h : 1 ≤ month) (year : Nat) :
    ∑ earlier ∈ Finset.Ico 1 month, daysInMonth year earlier = daysBeforeMonth year month := by
  induction month, h using Nat.le_induction with
  | base => rfl
  | succ month h ih => rw [Finset.sum_Ico_succ_top h, ih, daysBeforeMonth_succ h]

end Calendar

namespace Date

open Calendar

/-- The number of days before a date: those of the months of the earlier years, those of the earlier
months of its year, and those before it in its month. -/
def daysBefore (date : Date) : Nat :=
  ∑ year ∈ Finset.Ico 1 date.year, ∑ month ∈ Finset.Icc 1 12, daysInMonth year month
    + ∑ month ∈ Finset.Ico 1 date.month, daysInMonth date.year month + (date.day - 1)

/-- The months of the years before one have the days before it. -/
theorem sum_daysInMonth_years {year : Nat} (h : 1 ≤ year) :
    ∑ earlier ∈ Finset.Ico 1 year, ∑ month ∈ Finset.Icc 1 12, daysInMonth earlier month =
      daysBeforeYear year := by
  have hyear (year : Nat) :
      ∑ month ∈ Finset.Icc 1 12, daysInMonth year month = daysInYear year := by
    rw [← daysBeforeMonth_thirteen, ← sum_daysInMonth (by decide)]
    rfl
  induction year, h using Nat.le_induction with
  | base => rfl
  | succ year h ih => rw [Finset.sum_Ico_succ_top h, ih, hyear, daysBeforeYear_succ h]

/-- The number of a date counts the days before it. -/
theorem dayNumber_eq_daysBefore {date : Date} (hyear : 1 ≤ date.year) (hmonth : 1 ≤ date.month) :
    date.dayNumber = date.daysBefore := by
  rw [dayNumber, daysBefore, sum_daysInMonth_years hyear, sum_daysInMonth hmonth]

end Date

end ContentQuery
