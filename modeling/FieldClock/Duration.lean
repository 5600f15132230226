/-!
# Durations

A span of time as a whole number of nanoseconds, below 2 ^ 64 seconds. The settings hold their timeout and their settle
delay as durations.
-/

namespace FieldClock

/-- How many numbers fit in 64 bits. -/
abbrev bound64 : Nat := 18446744073709551616

/-- A span of time in nanoseconds; its whole seconds fit in 64 bits. -/
structure Duration where
  nanoseconds : Nat
  inRange : nanoseconds < bound64 * 1000000000
deriving DecidableEq

namespace Duration

/-- The whole seconds of a duration. -/
def seconds (d : Duration) : Nat := d.nanoseconds / 1000000000

/-- The nanoseconds past the whole seconds. -/
def subsecond (d : Duration) : Nat := d.nanoseconds % 1000000000

/-- Whether a duration has no length. -/
def isZero (d : Duration) : Bool := d.nanoseconds == 0

/-- The duration of so many seconds and nanoseconds, if its whole seconds fit in 64 bits. -/
def ofParts? (seconds nanoseconds : Nat) : Option Duration :=
  if h : seconds * 1000000000 + nanoseconds < bound64 * 1000000000 then some ⟨_, h⟩ else none

/-- A duration of whole milliseconds. -/
def ofMilliseconds (n : Nat) (h : n < bound64 := by decide) : Duration := ⟨n * 1000000, by omega⟩

/-- A duration of whole seconds. -/
def ofSeconds (n : Nat) (h : n < bound64 := by decide) : Duration := ⟨n * 1000000000, by omega⟩

end Duration

end FieldClock
