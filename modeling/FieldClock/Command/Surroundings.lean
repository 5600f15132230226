import FieldClock.Exchange
import FieldClock.Modbus.Wire
import FieldClock.Settings.File
import FieldClock.Sink

/-!
# Surroundings

All that the program uses of the world around it: files, variables, the clock, the network and its two outputs.
-/

namespace FieldClock.Command

/-- The world around the program, with connections `κ`. -/
structure Surroundings (m : Type → Type) (κ : Type) where
  /-- The bytes of the file at a path. -/
  contents : String → m (Except FileFault ByteArray)
  /-- Whether there is anything at a path. -/
  isThere : String → m Bool
  /-- The value of a variable of the environment. -/
  lookUp : String → m (Option String)
  clock : Clock m
  wire : Modbus.Wire m κ
  /-- Writes to the output that reports go to. -/
  print : String → m (Except WriteFault Unit)
  /-- Writes to the output for complaints. -/
  complain : String → m Unit
  /-- Has the output for reports pass on what it holds back, by default nothing. -/
  flush : m (Except WriteFault Unit) := by exact pure (.ok ())

end FieldClock.Command
