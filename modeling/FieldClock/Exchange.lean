import FieldClock.Settings
import FieldClock.Transport

/-!
# The exchange with a device

One device at a time: open the connection, read the clock, take the time of the host, write it, wait, and read the clock
back. A fault before the writing is done ends the exchange; a fault in reading back only leaves it unverified. The
connection is closed whatever happens.
-/

namespace FieldClock

/-- Where the time of the host comes from, and how to wait. -/
structure Clock (m : Type → Type) where
  now : m Instant
  pause : Duration → m Unit

/-- A clock in a larger monad. -/
def Clock.lift {m n : Type → Type} [MonadLiftT m n] (c : Clock m) : Clock n where
  now := liftM c.now
  pause d := liftM (c.pause d)

/-! ### Outcomes -/

/-- Why an exchange stopped, or what it could not verify. -/
inductive Failure where
  | connect (cause : Fault)
  | read (range : RegisterRange) (cause : Fault)
  | write (range : RegisterRange) (cause : Fault)
  /-- The clock was written but not read back. -/
  | verify (cause : Fault)
deriving DecidableEq

namespace Failure

/-- The name of the kind of a failure. -/
def kind : Failure → String
  | .connect _ => "connect"
  | .read _ _ => "read"
  | .write _ _ => "write"
  | .verify _ => "verify"

/-- The fault behind a failure. -/
def cause : Failure → Fault
  | .connect cause => cause
  | .read _ cause => cause
  | .write _ cause => cause
  | .verify cause => cause

/-- The message for a failure. -/
def message : Failure → String
  | .connect cause => "connect failed: " ++ cause.message
  | .read range cause => "read of input registers " ++ range.text ++ " failed: " ++ cause.message
  | .write range cause => "write of holding registers " ++ range.text ++ " failed: " ++ cause.message
  | .verify cause => "read after write failed: " ++ cause.message

end Failure

/-- How far an exchange got. -/
inductive Outcome where
  /-- The clock was written and read back. -/
  | synced (before host after : DeviceTime)
  /-- The clock was written but not read back. -/
  | unverified (before host : DeviceTime) (warning : Failure)
  /-- The exchange stopped before the clock was written. -/
  | failed (before host : Option DeviceTime) (failure : Failure)
deriving DecidableEq

namespace Outcome

/-- Whether the device took the new time. -/
def isWritten : Outcome → Bool
  | .failed _ _ _ => false
  | _ => true

/-- The clock before the writing, if it was read. -/
def before : Outcome → Option DeviceTime
  | .synced before _ _ => some before
  | .unverified before _ _ => some before
  | .failed before _ _ => before

/-- The time of the host, if it was taken. -/
def host : Outcome → Option DeviceTime
  | .synced _ host _ => some host
  | .unverified _ host _ => some host
  | .failed _ host _ => host

/-- The clock after the writing, if it was read back. -/
def after : Outcome → Option DeviceTime
  | .synced _ _ after => some after
  | _ => none

/-- What went wrong, if anything did. -/
def failure : Outcome → Option Failure
  | .synced _ _ _ => none
  | .unverified _ _ warning => some warning
  | .failed _ _ failure => some failure

/-- How far the clock was ahead of the host before the writing, in milliseconds, if both are known. -/
def offset (o : Outcome) : Option Int := do return (← o.before).offset (← o.host)

end Outcome

/-! ### The steps -/

section
variable {m : Type → Type} [Monad m]

/-- Reads the clock. Registers that show no device time count as a failed read. -/
def readClock (t : Transport m) (layout : RegisterMap) : m (Except Failure DeviceTime) := do
  match ← t.read layout.readAddress layout.readCount with
  | .error cause => return .error (.read layout.readRange cause)
  | .ok registers =>
    match DeviceTime.ofRegisters registers with
    | .error cause => return .error (.read layout.readRange (.malformed cause))
    | .ok time => return .ok time

/-- Writes the milliseconds, if the layout has them written. -/
def writeMilliseconds (t : Transport m) (layout : RegisterMap) (time : DeviceTime) : m (Except Failure Unit) := do
  if layout.writeMsEnabled then
    match ← t.write layout.writeMsAddress [time.milliseconds] with
    | .error cause => return .error (.write ⟨layout.writeMsAddress, 1⟩ cause)
    | .ok () => return .ok ()
  else return .ok ()

/-- Writes the seconds, then the milliseconds. These are two requests: the seconds stay written when the milliseconds
    fail. -/
def writeClock (t : Transport m) (layout : RegisterMap) (time : DeviceTime) : m (Except Failure Unit) := do
  match ← t.write layout.writeEpochAddress time.epochRegisters with
  | .error cause => return .error (.write layout.writeRange cause)
  | .ok () => writeMilliseconds t layout time

/-- Reads the clock back after the writing. -/
def verifyClock (t : Transport m) (layout : RegisterMap) (before host : DeviceTime) : m Outcome := do
  match ← readClock t layout with
  | .error failure => return .unverified before host (.verify failure.cause)
  | .ok after => return .synced before host after

/-- The exchange on an open connection. -/
def exchangeOpen (t : Transport m) (clock : Clock m) (layout : RegisterMap) (settle : Duration) : m Outcome := do
  match ← readClock t layout with
  | .error failure => return .failed none none failure
  | .ok before =>
    let host := DeviceTime.ofInstant (← clock.now)
    match ← writeClock t layout host with
    | .error failure => return .failed (some before) (some host) failure
    | .ok () =>
      unless settle.isZero do clock.pause settle
      verifyClock t layout before host

/-- The exchange with one device. -/
def exchange (t : Transport m) (clock : Clock m) (settings : Settings) : m Outcome := do
  match ← t.session (exchangeOpen t clock settings.registers settings.settleDelay) with
  | .error cause => return .failed none none (.connect cause)
  | .ok outcome => return outcome

end

end FieldClock
