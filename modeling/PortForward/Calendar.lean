/-
# The calendar

The calendar with a leap day every fourth year, but of the years of full centuries only every
fourth. It goes on into the past beyond its introduction, and has a year zero.

* `Calendar.dayNumber` : counts days; each month begins on the day after the last one of the month
  before (`dayNumber_next_month`), each year on the day after the last one of the year before
  (`dayNumber_next_year`).
-/
import PortForward.Text.Hex
import PortForward.Text.Reader

namespace PortForward.Calendar

/-- The year has a 29th of February. -/
def isLeap (year : Int) : Bool := year % 4 = 0 && (year % 100 ≠ 0 || year % 400 = 0)

/-- The days of a month. -/
def daysIn (year : Int) (month : Nat) : Nat :=
  if month = 2 then (if isLeap year then 29 else 28)
  else if month = 4 ∨ month = 6 ∨ month = 9 ∨ month = 11 then 30
  else 31

/-- The days of the first months of a year. -/
def daysThrough (year : Int) : Nat → Nat
  | 0 => 0
  | months + 1 => daysThrough year months + daysIn year (months + 1)

/-- The leap years since the year one. -/
def leapYearsBefore (year : Int) : Int := (year - 1) / 4 - (year - 1) / 100 + (year - 1) / 400

/-- The number of a day, counted from the first day of 1970. -/
def dayNumber (year : Int) (month day : Nat) : Int :=
  365 * year + leapYearsBefore year + daysThrough year (month - 1) + day - 719528

/-- The first day of 1970 has number zero. -/
example : dayNumber 1970 1 1 = 0 ∧ dayNumber 2000 3 1 = 11017 ∧ dayNumber 0 1 1 = -719528 := by decide

/-- A month begins on the day after the last one of the month before. -/
theorem dayNumber_next_month (year : Int) (month : Nat) (h : 0 < month) :
    dayNumber year (month + 1) 1 = dayNumber year month (daysIn year month) + 1 := by
  obtain ⟨m, rfl⟩ : ∃ m, month = m + 1 := ⟨month - 1, by omega⟩
  simp only [dayNumber, Nat.add_sub_cancel, daysThrough]
  omega

/-- The leap years before the next year are one more after a leap year. -/
theorem leapYearsBefore_next (year : Int) :
    leapYearsBefore (year + 1) = leapYearsBefore year + if isLeap year then 1 else 0 := by
  simp only [leapYearsBefore, isLeap, Bool.and_eq_true, Bool.or_eq_true, decide_eq_true_eq]
  split <;> omega

/-- A year begins on the day after the last one of the year before. -/
theorem dayNumber_next_year (year : Int) :
    dayNumber (year + 1) 1 1 = dayNumber year 12 (daysIn year 12) + 1 := by
  simp [dayNumber, leapYearsBefore_next, daysThrough, daysIn]
  split <;> omega

open Text Reader

/-- A number of so many digits, in a range. -/
def fixed (digits least greatest : Nat) : Reader Nat :=
  (exactly digits Char.isDigit).filterMap fun ds =>
    let n := digitsValue 10 ds
    if least ≤ n ∧ n ≤ greatest then some n else none

end PortForward.Calendar
