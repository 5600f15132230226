import FieldClock.RegisterMap
import FieldClock.Transport

/-!
# The simulated device

A device clock in memory, reached through the same registers as a real one, with switches that make its calls fail.
-/

namespace FieldClock

/-- A write that a simulated device was asked for, accepted or not. -/
structure RecordedWrite where
  address : UInt16
  values : List UInt16
deriving DecidableEq

/-- A simulated device. -/
structure SimulatedClock where
  /-- Where the clock shows. -/
  layout : RegisterMap
  clock : DeviceTime
  connected : Bool := false
  /-- Takes no connections. -/
  offline : Bool := false
  /-- Answers a read with one register too few. -/
  shortReads : Bool := false
  /-- Fails this read, counted from 0, and every later one. -/
  failReadsFrom : Option Nat := none
  /-- Fails every write that starts at this register. -/
  failWritesTo : Option UInt16 := none
  /-- How many reads there were. -/
  reads : Nat := 0
  /-- The writes so far, the first one first. -/
  writes : List RecordedWrite := []
  /-- How many times the connection was closed. -/
  closes : Nat := 0
deriving DecidableEq

namespace SimulatedClock

/-! ### Registers -/

/-- The input register at an address: one of the three of the clock, else 0. -/
def inputRegister (d : SimulatedClock) (address : UInt16) : UInt16 :=
  if d.layout.readAddress ≤ address then
    d.clock.registers.getD (address.toNat - d.layout.readAddress.toNat) 0
  else 0

/-- What putting a value in the holding register at an address makes of a clock. The second register of the seconds
    follows the first one around the end of the addresses. -/
def putRegister (layout : RegisterMap) (clock : DeviceTime) (address value : UInt16) : DeviceTime :=
  let (hi, lo) := splitWords clock.seconds
  if address = layout.writeEpochAddress then { clock with seconds := joinWords value lo }
  else if address = layout.writeEpochAddress + 1 then { clock with seconds := joinWords hi value }
  else if layout.writeMsEnabled && address == layout.writeMsAddress then { clock with milliseconds := min value 999 }
  else clock

/-- Puts values in the holding registers from an address on, around the end of the addresses. -/
def putRegisters (layout : RegisterMap) (clock : DeviceTime) (address : UInt16) : List UInt16 → DeviceTime
  | [] => clock
  | value :: rest => putRegisters layout (putRegister layout clock address value) (address + 1) rest

/-! ### Calls -/

/-- Opens the connection. -/
def connect (d : SimulatedClock) : Except Fault Unit × SimulatedClock :=
  if d.offline then (.error (.fieldbus .simulatedOffline), d) else (.ok (), { d with connected := true })

/-- Whether a read fails that so many came before. -/
def readFails (d : SimulatedClock) (index : Nat) : Bool := d.failReadsFrom.any (· ≤ index)

/-- Reads input registers, around the end of the addresses. -/
def read (d : SimulatedClock) (address quantity : UInt16) : Except Fault (List UInt16) × SimulatedClock :=
  if d.connected then
    let after := { d with reads := d.reads + 1 }
    if d.readFails d.reads then (.error (.fieldbus .simulatedReadFailure), after)
    else
      let quantity := if d.shortReads then quantity.toNat - 1 else quantity.toNat
      (.ok ((List.range quantity).map fun i => d.inputRegister (address + UInt16.ofNat i)), after)
  else (.error (.fieldbus .simulatedNotConnected), d)

/-- Writes holding registers. A write that fails is recorded but changes no register. -/
def write (d : SimulatedClock) (address : UInt16) (values : List UInt16) : Except Fault Unit × SimulatedClock :=
  if d.connected then
    let after := { d with writes := d.writes ++ [⟨address, values⟩] }
    if d.failWritesTo = some address then (.error (.fieldbus .simulatedWriteRefusal), after)
    else (.ok (), { after with clock := putRegisters d.layout d.clock address values })
  else (.error (.fieldbus .simulatedNotConnected), d)

/-- Gives the connection up; also without one, this counts. -/
def close (d : SimulatedClock) : SimulatedClock := { d with connected := false, closes := d.closes + 1 }

/-- A simulated device as a transport. -/
def transport {m : Type → Type} [Monad m] : Transport (StateT SimulatedClock m) where
  connect d := pure d.connect
  read address quantity d := pure (d.read address quantity)
  write address values d := pure (d.write address values)
  close d := pure ((), d.close)
  isConnected d := pure (d.connected, d)

end SimulatedClock

end FieldClock
