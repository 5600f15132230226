import FieldClock.Modbus.Frame

/-!
# PDUs

The two requests of a clock, reading input registers (function 0x04) and writing holding registers (function 0x10), and
what their replies must hold. Bytes past the end of a reply are ignored.
-/

namespace FieldClock.Modbus

/-- The function code for reading input registers. -/
def readFunction : UInt8 := 0x04

/-- The function code for writing holding registers. -/
def writeFunction : UInt8 := 0x10

/-- The largest number of registers that one read may ask for. -/
def maxReadRegisters : Nat := 125

/-- The largest number of registers that one write may carry. -/
def maxWriteRegisters : Nat := 123

/-! ### Requests -/

/-- The PDU that asks for input registers. -/
def readRequest (address quantity : UInt16) : List UInt8 :=
  readFunction :: wordBytes address ++ wordBytes quantity

/-- The PDU that writes holding registers. -/
def writeRequest (address : UInt16) (values : List UInt16) : List UInt8 :=
  writeFunction :: wordBytes address ++ wordBytes (UInt16.ofNat values.length) ++
    UInt8.ofNat (values.length * 2) :: values.flatMap wordBytes

/-! ### Replies -/

/-- The exception that a reply is, if its function code has the high bit. -/
def exception? : List UInt8 → Option Exception
  | [] => none
  | function :: rest =>
    if function &&& 0x80 ≠ 0 then
      match rest with
      | code :: _ => some (.ofCode code)
      | [] => some .missing
    else none

/-- A reply that is no exception. -/
def checkException (pdu : List UInt8) : Except Fault (List UInt8) :=
  match exception? pdu with
  | some e => .error (.exception e)
  | none => .ok pdu

/-- The registers in the reply to a read of `quantity` registers. -/
def readReply (quantity : UInt16) : List UInt8 → Except Fault (List UInt16)
  | function :: count :: data =>
    if function ≠ readFunction then .error (.functionMismatch readFunction function)
    else if count.toNat ≠ quantity.toNat * 2 then .error (.byteCount (quantity.toNat * 2) count.toNat)
    else if data.length < count.toNat then .error (.missingData (2 + count.toNat))
    else .ok (wordsOfBytes (data.take count.toNat))
  | _ => .error .responseTooShort

/-- Checks the reply to a write of `quantity` registers: it repeats the address and the quantity. -/
def writeReply (address quantity : UInt16) : List UInt8 → Except Fault Unit
  | function :: a₁ :: a₂ :: q₁ :: q₂ :: _ =>
    if function ≠ writeFunction then .error (.functionMismatch writeFunction function)
    else if wordOfBytes a₁ a₂ ≠ address ∨ wordOfBytes q₁ q₂ ≠ quantity then
      .error (.echoMismatch (wordOfBytes a₁ a₂) address (wordOfBytes q₁ q₂) quantity)
    else .ok ()
  | _ => .error .responseTooShort

end FieldClock.Modbus
