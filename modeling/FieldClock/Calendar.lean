/-!
# The calendar

Dates of the Gregorian calendar, carried back before its introduction and before year 1. A date is numbered by the days
from 1 January 1970; the number is found by whole cycles of 400, 100, 4 and 1 years counted from year 1.
-/

namespace FieldClock.Calendar

/-- A date: a year, a month from 1 and a day from 1. -/
structure Date where
  year : Int
  month : Nat
  day : Nat
deriving DecidableEq

/-- Whether a year has a 29 February. -/
def isLeap (year : Int) : Bool := year % 4 == 0 && (year % 100 != 0 || year % 400 == 0)

/-- The lengths of the months of a year, January first. -/
def monthLengths (leap : Bool) : List Nat := [31, if leap then 29 else 28, 31, 30, 31, 30, 31, 31, 30, 31, 30, 31]

/-- The days from 1 January of year 1 to 1 January of `year`. -/
def daysBeforeYear (year : Int) : Int :=
  365 * (year - 1) + (year - 1) / 4 - (year - 1) / 100 + (year - 1) / 400

/-- The days from 1 January of year 1 to 1 January 1970. -/
def unixEpochDay : Int := 719162

/-- The days of a year before the first of a month. -/
def daysBeforeMonth (leap : Bool) (month : Nat) : Nat := ((monthLengths leap).take (month - 1)).foldl (· + ·) 0

/-- The number of a date: the days from 1 January 1970. -/
def Date.dayNumber (d : Date) : Int :=
  daysBeforeYear d.year - unixEpochDay + daysBeforeMonth (isLeap d.year) d.month + (d.day - 1)

/-- The month and day of the day `n` of a year, counted from 0, in months of these lengths; `month` numbers the first. -/
def monthAndDay (month : Nat) : List Nat → Nat → Nat × Nat
  | [], n => (month, n + 1)
  | length :: rest, n => if n < length then (month, n + 1) else monthAndDay (month + 1) rest (n - length)

/-- The date with a number. -/
def Date.ofDayNumber (n : Int) : Date :=
  let n := n + unixEpochDay
  let day := (n % 146097).toNat
  let centuries := min (day / 36524) 3
  let day := day - centuries * 36524
  let quadrennia := day / 1461
  let day := day % 1461
  let years := min (day / 365) 3
  let day := day - years * 365
  let year := n / 146097 * 400 + centuries * 100 + quadrennia * 4 + years + 1
  let (month, day) := monthAndDay 1 (monthLengths (isLeap year)) day
  ⟨year, month, day⟩

end FieldClock.Calendar
