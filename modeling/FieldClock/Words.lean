/-!
# Register words

A 32-bit number stands in two 16-bit registers, the high word first.
-/

namespace FieldClock

/-- The 32-bit number of a high and a low word. -/
def joinWords (hi lo : UInt16) : UInt32 := (hi.toUInt32 <<< 16) ||| lo.toUInt32

/-- The high and the low word of a 32-bit number. -/
def splitWords (n : UInt32) : UInt16 × UInt16 := ((n >>> 16).toUInt16, n.toUInt16)

end FieldClock
