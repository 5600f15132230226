import FieldClock.Exchange

/-!
# Rounds

A round visits every target in order, each with a device of its own, and tells of each visit when it is done. No fault of a
device keeps the next one from its visit.
-/

namespace FieldClock

/-- What came of one target. -/
structure Report where
  target : Target
  outcome : Outcome
deriving DecidableEq

/-- A visit: its report, and the device as the visit left it. -/
structure Visit (σ : Type) where
  report : Report
  device : σ

section
variable {m : Type → Type} [Monad m] {σ : Type}

/-- Visits one target with a device. -/
def visit (t : Transport (StateT σ m)) (clock : Clock m) (settings : Settings) (target : Target) (device : σ) :
    m (Visit σ) := do
  let (outcome, device) ← (exchange t clock.lift settings).run device
  return ⟨⟨target, outcome⟩, device⟩

/-- Visits targets in order. The device of a target is built just before its visit, and `notify` hears of the visit
    right after it. -/
def round (t : Transport (StateT σ m)) (clock : Clock m) (settings : Settings) (build : Target → m σ)
    (notify : Report → m Unit) : List Target → m (List (Visit σ))
  | [] => return []
  | target :: rest => do
    let device ← build target
    let done ← visit t clock settings target device
    notify done.report
    return done :: (← round t clock settings build notify rest)

end

end FieldClock
