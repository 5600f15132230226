/-!
# Sinks

Where report text goes. A sink may refuse text; what it had taken before stays.
-/

namespace FieldClock

/-- Why a sink refuses text. -/
inductive WriteFault where
  /-- A buffer of fixed size is full. -/
  | bufferFull
  /-- The device behind the sink is full. -/
  | noSpace
  /-- Another fault, in the words of the system. -/
  | other (text : String)
deriving DecidableEq

/-- The message for a refused text. -/
def WriteFault.message : WriteFault → String
  | .bufferFull => "failed to write whole buffer"
  | .noSpace => "No space left on device (os error 28)"
  | .other text => text

/-- A buffer that takes `room` bytes in all, and the bytes that it has taken. -/
structure Buffer where
  room : Option Nat
  bytes : List UInt8 := []
deriving DecidableEq

/-- Puts text in a buffer: all of it, or its first bytes up to the room there is. -/
def Buffer.write (text : String) (b : Buffer) : Except WriteFault Unit × Buffer :=
  let bytes := b.bytes ++ text.toUTF8.toList
  match b.room with
  | none => (.ok (), { b with bytes })
  | some room =>
    if bytes.length ≤ room then (.ok (), { b with bytes })
    else (.error .bufferFull, { b with bytes := bytes.take room })

end FieldClock
