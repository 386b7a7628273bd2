import Commissioning.Text.Decimal

set_option autoImplicit false

/-! # Dates

Days of the proleptic Gregorian calendar. The years run from -262143 to 262142. A date is
written `dd.MM.yyyy`, with four digits of the year at least and a sign outside 0 to 9999. -/

namespace Commissioning

/-- Whether a year has a 29 February. -/
def isLeapYear (year : Int) : Bool :=
  year % 4 == 0 && (year % 100 != 0 || year % 400 == 0)

/-- The number of days in a month; zero for a number that is no month. -/
def daysInMonth (year : Int) (month : Nat) : Nat :=
  if month = 2 then if isLeapYear year then 29 else 28
  else if month ∈ [4, 6, 9, 11] then 30
  else if 1 ≤ month ∧ month ≤ 12 then 31
  else 0

/-- A day of the calendar. -/
structure Date where
  year : Int
  month : Nat
  day : Nat
  year_mem : -262143 ≤ year ∧ year ≤ 262142
  day_mem : 1 ≤ day ∧ day ≤ daysInMonth year month
  deriving DecidableEq

namespace Date

/-- The date with these numbers, if there is one. -/
def of? (year : Int) (month day : Nat) : Option Date :=
  if h : (-262143 ≤ year ∧ year ≤ 262142) ∧ 1 ≤ day ∧ day ≤ daysInMonth year month then
    some ⟨year, month, day, h.1, h.2⟩
  else none

theorem month_mem (date : Date) : 1 ≤ date.month ∧ date.month ≤ 12 := by
  have h := date.day_mem
  simp only [daysInMonth, List.mem_cons, List.not_mem_nil, or_false] at h
  grind

/-- The digits of a year: four at least, with a sign outside 0 to 9999. -/
def yearText (year : Int) : List Char :=
  let digits := Text.decimalPadded 4 year.natAbs
  if year < 0 then '-' :: digits
  else if 9999 < year then '+' :: digits
  else digits

/-- The date as `dd.MM.yyyy`. -/
def text (date : Date) : List Char :=
  Text.decimalPadded 2 date.day ++ '.' :: Text.decimalPadded 2 date.month
    ++ '.' :: yearText date.year

end Date

end Commissioning
