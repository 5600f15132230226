import FieldClock.Duration
import FieldClock.RegisterMap
import FieldClock.Target

/-!
# Settings

What a run is told: how long to wait, where the registers are and which devices to synchronise. The defaults describe the
reference devices.
-/

namespace FieldClock

/-- The settings of a run. -/
structure Settings where
  /-- How long connecting and each answer may take. -/
  timeout : Duration := .ofSeconds 2
  /-- The pause between writing a clock and reading it back. -/
  settleDelay : Duration := .ofMilliseconds 200
  /-- Whether requests go to the unit of their target and not to the default unit. -/
  applyUnitId : Bool := false
  registers : RegisterMap := {}
  /-- The devices to synchronise, in order. -/
  devices : List Target := [{ host := "192.168.7.2" }, { host := "192.168.7.200" }]
deriving DecidableEq

/-- The settings of a run that is told nothing. -/
def Settings.standard : Settings := {}

/-- What is wrong with settings. -/
inductive Defect where
  | zeroTimeout
  | readCountTooSmall (count : UInt16)
  | readCountTooLarge (count : UInt16)
  | epochCount (count : UInt16)
  /-- The register of the milliseconds is one of the seconds too. -/
  | overlappingMilliseconds (address : UInt16)
  | emptyHost (target : Target)
deriving DecidableEq

/-- The words for a defect. -/
def Defect.text : Defect → String
  | .zeroTimeout => "timeout must be non-zero"
  | .readCountTooSmall count => "read_count must be at least 3, got " ++ toString count.toNat
  | .readCountTooLarge count => "read_count exceeds 125: " ++ toString count.toNat
  | .epochCount count => "write_epoch_count must be 2 (hi, lo), got " ++ toString count.toNat
  | .overlappingMilliseconds address =>
    "write_ms_address " ++ toString address.toNat ++ " overlaps the epoch registers"
  | .emptyHost target => "device with empty host: " ++ target.text

/-- The message for a defect. -/
def Defect.message (d : Defect) : String := "invalid configuration: " ++ d.text

/-- Whether the milliseconds are written to a register of the seconds. The second one of these is taken not to lie behind
    the last address. -/
def RegisterMap.millisecondsOverlap (m : RegisterMap) : Bool :=
  m.writeMsEnabled && m.writeEpochAddress.toNat ≤ m.writeMsAddress.toNat &&
    m.writeMsAddress.toNat ≤ min (m.writeEpochAddress.toNat + 1) 65535

/-- The first defect of settings, in the order in which they are looked for. -/
def Settings.defect? (s : Settings) : Option Defect :=
  if s.timeout.isZero then some .zeroTimeout
  else if s.registers.readCount < 3 then some (.readCountTooSmall s.registers.readCount)
  else if s.registers.readCount > 125 then some (.readCountTooLarge s.registers.readCount)
  else if s.registers.writeEpochCount ≠ 2 then some (.epochCount s.registers.writeEpochCount)
  else if s.registers.millisecondsOverlap then some (.overlappingMilliseconds s.registers.writeMsAddress)
  else (s.devices.find? (·.host = "")).map .emptyHost

end FieldClock
