import FieldClock.Transport

/-!
# Scripted devices

A device that answers from prepared lists, one entry for each call of a kind, and keeps a list of the calls. A list that is
used up answers with success; a read then finds no registers.
-/

namespace FieldClock

/-- A call to a transport. -/
inductive Call where
  | connect
  | read (address quantity : UInt16)
  | write (address : UInt16) (values : List UInt16)
  | close
deriving DecidableEq

/-- A scripted device: the answers still to give and the calls so far, the first one first. -/
structure Script where
  connects : List (Except Fault Unit) := []
  reads : List (Except Fault (List UInt16)) := []
  writes : List (Except Fault Unit) := []
  connected : Bool := false
  calls : List Call := []

namespace Script

/-- Opens the connection, if the script lets it. -/
def connect (s : Script) : Except Fault Unit × Script :=
  let answer := s.connects.headD (.ok ())
  (answer, { s with
    connects := s.connects.tail
    connected := s.connected || answer.isOk
    calls := s.calls ++ [.connect] })

/-- Answers a read with the next entry, whatever was asked for. -/
def read (s : Script) (address quantity : UInt16) : Except Fault (List UInt16) × Script :=
  (s.reads.headD (.ok []), { s with reads := s.reads.tail, calls := s.calls ++ [.read address quantity] })

/-- Answers a write with the next entry. -/
def write (s : Script) (address : UInt16) (values : List UInt16) : Except Fault Unit × Script :=
  (s.writes.headD (.ok ()), { s with writes := s.writes.tail, calls := s.calls ++ [.write address values] })

/-- Gives the connection up. -/
def close (s : Script) : Script := { s with connected := false, calls := s.calls ++ [.close] }

/-- A scripted device as a transport. -/
def transport {m : Type → Type} [Monad m] : Transport (StateT Script m) where
  connect s := pure s.connect
  read address quantity s := pure (s.read address quantity)
  write address values s := pure (s.write address values)
  close s := pure ((), s.close)
  isConnected s := pure (s.connected, s)

end Script

end FieldClock
