import FieldClock.Command.Program
import FieldClock.Live.Surroundings

/-!
# The command

Synchronises the clocks of field devices with the clock of the host.
-/

/-- Runs the program with the words of its command line. -/
def main (words : List String) : IO UInt32 := FieldClock.Command.run FieldClock.Live.surroundings words
