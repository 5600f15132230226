import FieldClock.Fault

/-!
# Transports

A transport reaches the registers of one device. Its calls are actions of a monad that carries whatever the device and the
way to it remember, so one exchange runs against a socket, a simulation or an adversary alike.
-/

namespace FieldClock

/-- The calls that a device is reached by. -/
structure Transport (m : Type → Type) where
  /-- Opens the connection. -/
  connect : m (Except Fault Unit)
  /-- Reads so many input registers from an address on. -/
  read : UInt16 → UInt16 → m (Except Fault (List UInt16))
  /-- Writes values to the holding registers from an address on. -/
  write : UInt16 → List UInt16 → m (Except Fault Unit)
  /-- Gives the connection up; without one, this does nothing to it. -/
  close : m Unit
  /-- Whether there is a connection. -/
  isConnected : m Bool

namespace Transport

variable {m : Type → Type} [Monad m]

/-- Runs `body` on an open connection and closes it afterwards. If the connection does not open, it is closed all the same
    and the fault is the answer. -/
def session {α : Type} (t : Transport m) (body : m α) : m (Except Fault α) := do
  match ← t.connect with
  | .error fault =>
    t.close
    return .error fault
  | .ok () =>
    let answer ← body
    t.close
    return .ok answer

/-! ### Two kinds of device at once -/

/-- Runs an action on the left one of two states. -/
def onLeft {σ τ α : Type} (act : StateT σ m α) (s : σ) : m (α × (σ ⊕ τ)) := do
  let (a, s) ← act.run s
  return (a, .inl s)

/-- Runs an action on the right one of two states. -/
def onRight {σ τ α : Type} (act : StateT τ m α) (s : τ) : m (α × (σ ⊕ τ)) := do
  let (a, s) ← act.run s
  return (a, .inr s)

/-- Runs the action for the kind of device there is. -/
def onEither {σ τ α : Type} (left : StateT σ m α) (right : StateT τ m α) : StateT (σ ⊕ τ) m α
  | .inl s => onLeft left s
  | .inr s => onRight right s

/-- The transport of a device that is one of two kinds. -/
def either {σ τ : Type} (left : Transport (StateT σ m)) (right : Transport (StateT τ m)) :
    Transport (StateT (σ ⊕ τ) m) where
  connect := onEither left.connect right.connect
  read address quantity := onEither (left.read address quantity) (right.read address quantity)
  write address values := onEither (left.write address values) (right.write address values)
  close := onEither left.close right.close
  isConnected := onEither left.isConnected right.isConnected

end Transport

end FieldClock
