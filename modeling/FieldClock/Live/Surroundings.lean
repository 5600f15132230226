import Std.Time.DateTime
import FieldClock.Command.Surroundings
import FieldClock.Live.Network

/-!
# The running world

The files, the environment, the clock and the outputs of the process.
-/

namespace FieldClock.Live

/-- The time of the system's clock. One outside the range of instants counts as the start of 1970. -/
def now : IO Instant := do
  let t ← Std.Time.Timestamp.now
  let ns := t.toNanosecondsSinceUnixEpoch.val
  match Instant.ofUnix? (ns / 1000000000) (ns % 1000000000).toNat with
  | some instant => return instant
  | none => return ⟨0, 0, by decide, by decide⟩

/-- Waits. -/
def pause (d : Duration) : IO PUnit := IO.sleep (UInt32.ofNat (min (millisecondsOf d) 4294967295))

/-- Reads a file. -/
def contents (path : String) : IO (Except FileFault ByteArray) := guarded fileFault (IO.FS.readBinFile path)

/-- Whether there is anything at a path: it can be opened, or it is there but may not be. -/
def isThere (path : String) : IO Bool := do
  match ← guarded code (IO.FS.Handle.mk path .read) with
  | .ok _ => return true
  | .error n => return n ≠ 2 && n ≠ 20

/-- Writes to an output at once. -/
def put (output : IO.FS.Stream) (text : String) : IO PUnit := do
  output.putStr text
  output.flush

/-- Writes to the standard output. -/
def print (text : String) : IO (Except WriteFault PUnit) := do guarded writeFault (put (← IO.getStdout) text)

/-- Has the standard output pass on what it holds back. -/
def flush : IO (Except WriteFault PUnit) := do guarded writeFault (← IO.getStdout).flush

/-- Writes to the error output; if that fails there is nobody left to tell. -/
def complain (text : String) : IO PUnit := do
  let _ ← guarded message (put (← IO.getStderr) text)

/-- The world around the process. -/
def surroundings : Command.Surroundings IO Connection where
  contents := contents
  isThere := isThere
  lookUp name := IO.getEnv name
  clock := { now, pause }
  wire := wire
  print := print
  complain := complain
  flush := flush

end FieldClock.Live
