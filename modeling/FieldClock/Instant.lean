/-!
# Instants

A point in time as whole seconds from 1 January 1970, 00:00 UTC, and nanoseconds past them. A leap second is the second
59 of a minute with a thousand million nanoseconds or more.
-/

namespace FieldClock

/-- The first second that an instant can have, on 1 January of year -262143. -/
def firstSecond : Int := -8334601228800

/-- The last second that an instant can have, on 31 December of year 262142. -/
def lastSecond : Int := 8210266876799

/-- A point in time. -/
structure Instant where
  seconds : Int
  nanoseconds : Nat
  inRange : firstSecond ≤ seconds ∧ seconds ≤ lastSecond
  nanoseconds_lt : nanoseconds < 1000000000 ∨ seconds % 60 = 59 ∧ nanoseconds < 2000000000
deriving DecidableEq

namespace Instant

/-- The instant at so many seconds and nanoseconds, if there is one. -/
def ofUnix? (seconds : Int) (nanoseconds : Nat) : Option Instant :=
  if h : (firstSecond ≤ seconds ∧ seconds ≤ lastSecond) ∧
      (nanoseconds < 1000000000 ∨ seconds % 60 = 59 ∧ nanoseconds < 2000000000) then
    some ⟨seconds, nanoseconds, h.1, h.2⟩
  else none

/-- The milliseconds past the whole second; a thousand or more in a leap second. -/
def subsecondMilliseconds (t : Instant) : Nat := t.nanoseconds / 1000000

end Instant

end FieldClock
