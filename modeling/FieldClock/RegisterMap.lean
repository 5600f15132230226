/-!
# Register layout

Which registers of a device hold its clock: the input registers of the reading and the holding registers that set it.
-/

namespace FieldClock

/-- A run of registers. -/
structure RegisterRange where
  start : UInt16
  count : UInt16
deriving DecidableEq

namespace RegisterRange

/-- The last register of a range as it is shown: an empty range ends where it starts, and no range ends behind the last
    address. -/
def last (r : RegisterRange) : Nat := min (r.start.toNat + (r.count.toNat - 1)) 65535

/-- The text of a range, its first and its last register. -/
def text (r : RegisterRange) : String := toString r.start.toNat ++ ".." ++ toString r.last

end RegisterRange

/-- The registers of a device clock. The default is the layout of the reference devices. -/
structure RegisterMap where
  /-- The first input register of the reading. -/
  readAddress : UInt16 := 3
  /-- How many input registers are read. -/
  readCount : UInt16 := 3
  /-- The first holding register of the seconds. -/
  writeEpochAddress : UInt16 := 290
  /-- How many holding registers the seconds take. -/
  writeEpochCount : UInt16 := 2
  /-- Whether the milliseconds are written too. -/
  writeMsEnabled : Bool := false
  /-- The holding register of the milliseconds. -/
  writeMsAddress : UInt16 := 292
deriving DecidableEq

namespace RegisterMap

/-- The input registers of the reading. -/
def readRange (m : RegisterMap) : RegisterRange := ⟨m.readAddress, m.readCount⟩

/-- The holding registers of the seconds. -/
def writeRange (m : RegisterMap) : RegisterRange := ⟨m.writeEpochAddress, m.writeEpochCount⟩

end RegisterMap

end FieldClock
