import FieldClock.Duration.Written
import FieldClock.Settings
import FieldClock.Toml.Writing

/-!
# Settings as a document

Every setting is written, the devices last; an empty list of devices stands with the other settings at the top.
-/

namespace FieldClock

/-- The lines of a register layout. -/
def RegisterMap.lines (m : RegisterMap) : List (String × Toml.Item) := [
  ("read_address", .number m.readAddress.toNat),
  ("read_count", .number m.readCount.toNat),
  ("write_epoch_address", .number m.writeEpochAddress.toNat),
  ("write_epoch_count", .number m.writeEpochCount.toNat),
  ("write_ms_enabled", .flag m.writeMsEnabled),
  ("write_ms_address", .number m.writeMsAddress.toNat)]

/-- The lines of a target. -/
def Target.lines (t : Target) : List (String × Toml.Item) := [
  ("host", .text t.host),
  ("port", .number t.port.toNat),
  ("unit_id", .number t.unitId.toNat)]

namespace Settings

/-- The lines at the top. -/
def lines (s : Settings) : List (String × Toml.Item) := [
    ("timeout", .text s.timeout.text),
    ("settle_delay", .text s.settleDelay.text),
    ("apply_unit_id", .flag s.applyUnitId)] ++
  if s.devices = [] then [("devices", .emptyArray)] else []

/-- The blocks of settings. -/
def blocks (s : Settings) : List Toml.Block :=
  ⟨.document, s.lines⟩ :: ⟨.table "registers", s.registers.lines⟩ ::
    s.devices.map fun t => ⟨.element "devices", t.lines⟩

/-- The document of settings. -/
def toToml (s : Settings) : String := Toml.write s.blocks

end Settings

end FieldClock
