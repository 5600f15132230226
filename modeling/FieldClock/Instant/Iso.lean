import FieldClock.Calendar
import FieldClock.Instant
import FieldClock.Text.Numeral

/-!
# ISO 8601 text

The text of an instant, `YYYY-MM-DDTHH:MM:SS.mmmZ`. Milliseconds are cut, not rounded; a leap second is second 60; a year
outside 0 to 9999 has a sign.
-/

namespace FieldClock

/-- The text of a year: four digits from 0 to 9999, else a sign and at least four digits. -/
def yearText (year : Int) : List Char :=
  if 0 ≤ year ∧ year ≤ 9999 then Numeral.padded 4 year.toNat
  else (if year < 0 then '-' else '+') :: Numeral.padded 4 year.natAbs

namespace Instant

/-- The date of an instant. -/
def date (t : Instant) : Calendar.Date := Calendar.Date.ofDayNumber (t.seconds / 86400)

/-- The second of the day, from 0. -/
def secondOfDay (t : Instant) : Nat := (t.seconds % 86400).toNat

/-- The hour of the day. -/
def hour (t : Instant) : Nat := t.secondOfDay / 3600

/-- The minute of the hour. -/
def minute (t : Instant) : Nat := t.secondOfDay / 60 % 60

/-- The second of the minute as it is shown: 60 in a leap second. -/
def shownSecond (t : Instant) : Nat := t.secondOfDay % 60 + t.nanoseconds / 1000000000

/-- The milliseconds as they are shown, below a thousand. -/
def shownMilliseconds (t : Instant) : Nat := t.nanoseconds % 1000000000 / 1000000

/-- The text of an instant. -/
def iso (t : Instant) : String :=
  let d := t.date
  String.ofList (yearText d.year ++ '-' :: Numeral.padded 2 d.month ++ '-' :: Numeral.padded 2 d.day ++
    'T' :: Numeral.padded 2 t.hour ++ ':' :: Numeral.padded 2 t.minute ++ ':' :: Numeral.padded 2 t.shownSecond ++
    '.' :: Numeral.padded 3 t.shownMilliseconds ++ ['Z'])

end Instant

end FieldClock
