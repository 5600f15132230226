import FieldClock.Instant.Iso
import FieldClock.Round
import FieldClock.Text.Numeral

/-!
# Reports as text

Before the devices stands a banner with the registers in use. Each report is a block of lines: a heading, the times that
are known, how far the clock was off, and either the clock read back or what went wrong.
-/

namespace FieldClock

/-- The banner for a round of so many devices. -/
def banner (layout : RegisterMap) (deviceCount : Nat) : String :=
  let ms := if layout.writeMsEnabled then " (+ ms at " ++ toString layout.writeMsAddress.toNat ++ ")" else ""
  "Syncing " ++ toString deviceCount ++ " device(s)\n" ++
    "Reading input regs: " ++ layout.readRange.text ++ "\n" ++
    "Writing regs:       " ++ layout.writeRange.text ++ ms ++ "\n"

namespace Report

/-- A line with a time: its instant and the device time itself, with where that comes from. -/
def timeLine (tag source : String) (d : DeviceTime) : String :=
  "[" ++ tag ++ "] " ++ d.toInstant.iso ++ "  (" ++ source ++ ": " ++ d.text ++ ")\n"

/-- What a failed write was for: the milliseconds, if it starts at their register and they are written at all. -/
def writePurpose (layout : RegisterMap) (range : RegisterRange) : String :=
  if range.start = layout.writeMsAddress ∧ layout.writeMsEnabled then "ms" else "epoch"

/-- The line of a failure. -/
def failureLine (layout : RegisterMap) : Failure → String
  | .connect cause => "[FAIL] connect(): " ++ cause.message ++ "\n"
  | .read range cause => "[FAIL] read_input_registers(" ++ range.text ++ "): " ++ cause.message ++ "\n"
  | .write range cause =>
    "[FAIL] write_registers(" ++ range.text ++ ") " ++ writePurpose layout range ++ ": " ++ cause.message ++ "\n"
  | .verify cause => "[WARN] read-back after write failed: " ++ cause.message ++ "\n"

/-- The line that says how far the clock was off. -/
def offsetLine (offset : Int) : String := "[DELTA ] device was " ++ Numeral.signed offset ++ " ms off host\n"

/-- The text for a value, or none without one. -/
def optional {α : Type} (text : α → String) : Option α → String
  | some a => text a
  | none => ""

/-- The last line of a block. -/
def endLine (layout : RegisterMap) : Outcome → String
  | .synced _ _ after => timeLine "AFTER " "device" after
  | .unverified _ _ warning => failureLine layout warning
  | .failed _ _ failure => failureLine layout failure

/-- The block of a report. -/
def text (layout : RegisterMap) (r : Report) : String :=
  "\n=== Device " ++ r.target.text ++ " ===\n" ++
    optional (timeLine "BEFORE" "device") r.outcome.before ++
    optional (timeLine "HOST  " "host->device") r.outcome.host ++
    optional offsetLine r.outcome.offset ++
    endLine layout r.outcome

end Report

end FieldClock
