import FieldClock.Modbus.Fault

/-!
# Frames

A frame of Modbus TCP is a header of seven bytes and a PDU. Numbers of two bytes have the high byte first. The length in
the header counts the unit number and the PDU.
-/

namespace FieldClock.Modbus

/-- The two bytes of a word. -/
def wordBytes (w : UInt16) : List UInt8 := [(w >>> 8).toUInt8, w.toUInt8]

/-- The word of two bytes. -/
def wordOfBytes (hi lo : UInt8) : UInt16 := (hi.toUInt16 <<< 8) ||| lo.toUInt16

/-- The words of a run of bytes; a last byte without a partner is left out. -/
def wordsOfBytes : List UInt8 → List UInt16
  | hi :: lo :: rest => wordOfBytes hi lo :: wordsOfBytes rest
  | _ => []

/-- The header of a frame. -/
structure Header where
  transactionId : UInt16
  protocolId : UInt16
  length : UInt16
  unitId : UInt8
deriving DecidableEq

namespace Header

/-- The number of bytes of a header. -/
def size : Nat := 7

/-- The longest PDU that a frame can carry. -/
def maxPdu : Nat := 253

/-- The header of a request with a PDU of so many bytes. -/
def forRequest (transactionId : UInt16) (unitId : UInt8) (pduLength : Nat) : Header :=
  ⟨transactionId, 0, UInt16.ofNat (pduLength + 1), unitId⟩

/-- The bytes of a header. -/
def bytes (h : Header) : List UInt8 :=
  wordBytes h.transactionId ++ wordBytes h.protocolId ++ wordBytes h.length ++ [h.unitId]

/-- The header of the first seven bytes. -/
def ofBytes : List UInt8 → Except Fault Header
  | t₁ :: t₂ :: p₁ :: p₂ :: l₁ :: l₂ :: unit :: _ =>
    .ok ⟨wordOfBytes t₁ t₂, wordOfBytes p₁ p₂, wordOfBytes l₁ l₂, unit⟩
  | bytes => .error (.headerTooShort bytes.length)

/-- The length of the PDU behind a header. -/
def pduLength (h : Header) : Nat := h.length.toNat - 1

/-- The length of the PDU behind the header of a reply to a request with this transaction and unit, if it can be one. -/
def check (h : Header) (transactionId : UInt16) (unitId : UInt8) : Except Fault Nat :=
  if h.transactionId ≠ transactionId then .error (.transactionMismatch transactionId h.transactionId)
  else if h.protocolId ≠ 0 then .error (.wrongProtocol h.protocolId)
  else if h.unitId ≠ unitId then .error (.unitMismatch unitId h.unitId)
  else if h.pduLength = 0 ∨ h.pduLength > maxPdu then .error (.responseLength h.pduLength)
  else .ok h.pduLength

end Header

end FieldClock.Modbus
