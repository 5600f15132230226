import FieldClock.Modbus.Fault
import FieldClock.Settings.File
import FieldClock.Sink

/-!
# Faults of the system

What a failed call to the system means for the program, by the number that the system gives it.
-/

namespace FieldClock.Live

/-- The number of a fault and the words that came with it. Some calls give the number with a minus sign. -/
def parts : IO.Error → UInt32 × String
  | .alreadyExists _ n details => (n, details)
  | .otherError n details => (n, details)
  | .resourceBusy n details => (n, details)
  | .resourceVanished n details => (n, details)
  | .unsupportedOperation n details => (n, details)
  | .hardwareFault n details => (n, details)
  | .unsatisfiedConstraints n details => (n, details)
  | .illegalOperation n details => (n, details)
  | .protocolError n details => (n, details)
  | .timeExpired n details => (n, details)
  | .interrupted _ n details => (n, details)
  | .noFileOrDirectory _ n details => (n, details)
  | .invalidArgument _ n details => (n, details)
  | .permissionDenied _ n details => (n, details)
  | .resourceExhausted _ n details => (n, details)
  | .inappropriateType _ n details => (n, details)
  | .noSuchThing _ n details => (n, details)
  | .userError details => (0, details)
  | .unexpectedEof => (0, "unexpected end of file")

/-- The number that the system gives a fault. -/
def code (e : IO.Error) : UInt32 :=
  let n := (parts e).1
  if n < 0x80000000 then n else 0 - n

/-- The words that the system has for a number. -/
def words? (n : UInt32) : Option String :=
  if n = 13 then some "Permission denied"
  else if n = 20 then some "Not a directory"
  else if n = 32 then some "Broken pipe"
  else if n = 36 then some "File name too long"
  else if n = 101 then some "Network is unreachable"
  else if n = 104 then some "Connection reset by peer"
  else if n = 110 then some "Connection timed out"
  else if n = 111 then some "Connection refused"
  else if n = 113 then some "No route to host"
  else none

/-- The message for a fault. -/
def message (e : IO.Error) : String :=
  if code e = 0 then (parts e).2
  else (words? (code e)).getD (parts e).2 ++ " (os error " ++ toString (code e).toNat ++ ")"

/-- The message for a name that the system cannot look up. -/
def lookUpMessage (e : IO.Error) : String :=
  "failed to lookup address information: " ++
    if code e = 3001 then "Temporary failure in name resolution"
    else if code e = 3008 then "Name or service not known"
    else (parts e).2

/-- What a fault means for reading a file. -/
def fileFault (e : IO.Error) : FileFault :=
  if code e = 2 then .notFound else if code e = 21 then .isDirectory else .other (message e)

/-- What a fault means for writing a report. -/
def writeFault (e : IO.Error) : WriteFault := if code e = 28 then .noSpace else .other (message e)

/-- What a fault means for connecting. -/
def dialFault (e : IO.Error) : Modbus.DialFault :=
  if code e = 101 then .unreachable else if code e = 111 then .refused else .other (message e)

/-- What a fault means for a connection. -/
def ioFault (e : IO.Error) : Modbus.IoFault := .other (message e)

/-- Runs an action, with a fault of the system as an answer. -/
def guarded {α β : Type} (meaning : IO.Error → β) (act : IO α) : IO (Except β α) := do
  try return .ok (← act)
  catch e => return .error (meaning e)

end FieldClock.Live
