import FieldClock.Script

/-!
# Requests and calls

The two requests of a connected transport as data, so that a run of them is a list; and all its calls, with those that open
and close the connection.
-/

namespace FieldClock

/-- A request to the registers of a device. -/
inductive Request where
  | read (address quantity : UInt16)
  | write (address : UInt16) (values : List UInt16)
deriving DecidableEq

namespace Request

variable {m : Type → Type} [Monad m]

/-- Puts a request to a transport. A write that succeeds answers with no registers. -/
def perform (t : Transport m) : Request → m (Except Fault (List UInt16))
  | .read address quantity => t.read address quantity
  | .write address values => do return (← t.write address values).map fun _ => []

/-- Puts requests to a transport, one after the other. -/
def performAll (t : Transport m) : List Request → m (List (Except Fault (List UInt16)))
  | [] => return []
  | request :: rest => do
    let answer ← request.perform t
    return answer :: (← performAll t rest)

end Request

namespace Call

variable {m : Type → Type} [Monad m]

/-- The request that a call is, if it neither opens nor closes the connection. -/
def request? : Call → Option Request
  | .connect => none
  | .read address quantity => some (.read address quantity)
  | .write address values => some (.write address values)
  | .close => none

/-- Makes a call. Only a read answers with registers. -/
def make (t : Transport m) : Call → m (Except Fault (List UInt16))
  | .connect => do return (← t.connect).map fun _ => []
  | .read address quantity => Request.perform t (.read address quantity)
  | .write address values => Request.perform t (.write address values)
  | .close => do
    t.close
    return .ok []

/-- Makes calls one after the other, and tells of each whether there was a connection for it. -/
def makeAll (t : Transport m) : List Call → m (List (Bool × Call))
  | [] => return []
  | call :: rest => do
    let connected ← t.isConnected
    let _ ← call.make t
    return (connected, call) :: (← makeAll t rest)

end Call

end FieldClock
