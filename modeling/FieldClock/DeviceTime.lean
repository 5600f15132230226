import FieldClock.Instant
import FieldClock.Words

/-!
# Device time

A device keeps its clock as seconds from 1 January 2000, 00:00 UTC, and milliseconds. Three registers show it: the high
and the low word of the seconds, then the milliseconds.
-/

namespace FieldClock

/-- The seconds from 1 January 1970 to 1 January 2000. -/
def deviceEpoch : Int := 946684800

/-- A reading of a device clock. Milliseconds above 999 can be held but not decoded. -/
structure DeviceTime where
  seconds : UInt32
  milliseconds : UInt16
deriving DecidableEq, Inhabited

/-- Why registers show no device time. -/
inductive Malformed where
  | tooFewRegisters (count : Nat)
  | millisecondsOutOfRange (milliseconds : UInt16)
  /-- A payload that was found bad elsewhere, in the words it was told in. -/
  | reported (text : String)
deriving DecidableEq

/-- The message for a malformed payload. -/
def Malformed.message : Malformed → String
  | .tooFewRegisters count => "expected 3 registers, got " ++ toString count
  | .millisecondsOutOfRange milliseconds => "millisecond register out of range: " ++ toString milliseconds.toNat
  | .reported text => text

namespace DeviceTime

/-! ### Registers -/

/-- The two registers of the seconds. -/
def epochRegisters (d : DeviceTime) : List UInt16 :=
  let (hi, lo) := splitWords d.seconds
  [hi, lo]

/-- The three registers of a device time. -/
def registers (d : DeviceTime) : List UInt16 := d.epochRegisters ++ [d.milliseconds]

/-- Decodes the first three registers; further ones are ignored. -/
def ofRegisters : List UInt16 → Except Malformed DeviceTime
  | hi :: lo :: ms :: _ => if ms > 999 then .error (.millisecondsOutOfRange ms) else .ok ⟨joinWords hi lo, ms⟩
  | rs => .error (.tooFewRegisters rs.length)

/-! ### Instants -/

/-- The instant of a device time; milliseconds above 999 count as 999. -/
def toInstant (d : DeviceTime) : Instant where
  seconds := deviceEpoch + d.seconds.toNat
  nanoseconds := min d.milliseconds.toNat 999 * 1000000
  inRange := by
    have := d.seconds.toNat_lt
    unfold firstSecond lastSecond deviceEpoch
    omega
  nanoseconds_lt := by omega

/-- The device time of an instant. Seconds before 2000 become 0 and those that 32 bits do not hold the largest that they
    do; milliseconds are cut, and 999 in a leap second. -/
def ofInstant (t : Instant) : DeviceTime where
  seconds := UInt32.ofNat (min (t.seconds - deviceEpoch).toNat 4294967295)
  milliseconds := UInt16.ofNat (min t.subsecondMilliseconds 999)

/-! ### Comparing -/

/-- The milliseconds from 1 January 2000. -/
def totalMilliseconds (d : DeviceTime) : Int := d.seconds.toNat * 1000 + d.milliseconds.toNat

/-- How many milliseconds `d` is ahead of `reference`; negative if it is behind. -/
def offset (d reference : DeviceTime) : Int := d.totalMilliseconds - reference.totalMilliseconds

/-- The text of a device time, its two numbers with their units. -/
def text (d : DeviceTime) : String := toString d.seconds.toNat ++ "s + " ++ toString d.milliseconds.toNat ++ "ms"

end DeviceTime

end FieldClock
