import FieldClock.Modbus.Pdu
import FieldClock.Modbus.Wire
import FieldClock.Transport

/-!
# The Modbus client

A client holds at most one connection and numbers its requests. A request that the peer does not answer in full costs the
connection; a full answer that is not accepted does not.
-/

namespace FieldClock.Modbus

/-- A client: where it connects, its connection and the number of its last request. -/
structure Client (κ : Type) where
  endpoint : Endpoint
  connection : Option κ := none
  transactionId : UInt16 := 0

namespace Client

variable {m : Type → Type} [Monad m] {κ : Type}

/-- A failed Modbus request as a fault of any device. -/
def failed {α : Type} (cause : Fault) : Except FieldClock.Fault α := .error (.fieldbus (.modbus cause))

/-- An answer of the protocol as an answer of any device. -/
def answer {α : Type} : Except Fault α → Except FieldClock.Fault α
  | .ok a => .ok a
  | .error cause => failed cause

/-- Opens a connection. One that was open is given up, but only once the new one is there. -/
def connect (wire : Wire m κ) (c : Client κ) : m (Except FieldClock.Fault Unit × Client κ) := do
  match ← wire.dial c.endpoint with
  | .error cause => return (failed (.dial cause), c)
  | .ok connection =>
    if let some old := c.connection then wire.hangUp old
    return (.ok (), { c with connection := some connection })

/-- Gives up the connection after a fault. -/
def drop (wire : Wire m κ) (connection : κ) (c : Client κ) (cause : Fault) :
    m (Except Fault (List UInt8) × Client κ) := do
  wire.hangUp connection
  return (.error cause, { c with connection := none })

/-- Receives the PDU behind a header that was accepted. -/
def receivePdu (wire : Wire m κ) (connection : κ) (c : Client κ) (length : Nat) :
    m (Except Fault (List UInt8) × Client κ) := do
  match ← wire.receive connection length with
  | .error cause => drop wire connection c (.receivePdu cause)
  | .ok (pdu, connection) => return (checkException pdu, { c with connection := some connection })

/-- Receives a reply to the last request. Of a reply whose header is not accepted, no more than the header is taken. -/
def receiveReply (wire : Wire m κ) (connection : κ) (c : Client κ) : m (Except Fault (List UInt8) × Client κ) := do
  match ← wire.receive connection Header.size with
  | .error cause => drop wire connection c (.receiveHeader cause)
  | .ok (bytes, connection) =>
    match Header.ofBytes bytes >>= (·.check c.transactionId c.endpoint.unitId) with
    | .error cause => return (.error cause, { c with connection := some connection })
    | .ok length => receivePdu wire connection c length

/-- Sends a request and receives its reply. -/
def request (wire : Wire m κ) (pdu : List UInt8) (c : Client κ) : m (Except Fault (List UInt8) × Client κ) := do
  match c.connection with
  | none => return (.error .notConnected, c)
  | some connection =>
    let c := { c with transactionId := c.transactionId + 1 }
    let header := Header.forRequest c.transactionId c.endpoint.unitId pdu.length
    match ← wire.send connection (header.bytes ++ pdu) with
    | .error cause => drop wire connection c (.send cause)
    | .ok connection => receiveReply wire connection c

/-- Reads input registers. -/
def read (wire : Wire m κ) (address quantity : UInt16) (c : Client κ) :
    m (Except FieldClock.Fault (List UInt16) × Client κ) := do
  if quantity.toNat = 0 ∨ quantity.toNat > maxReadRegisters then
    return (failed (.registerCount quantity.toNat), c)
  else
    let (reply, c) ← request wire (readRequest address quantity) c
    return (answer (reply >>= readReply quantity), c)

/-- Writes holding registers. -/
def write (wire : Wire m κ) (address : UInt16) (values : List UInt16) (c : Client κ) :
    m (Except FieldClock.Fault Unit × Client κ) := do
  if values.length = 0 ∨ values.length > maxWriteRegisters then
    return (failed (.registerCount values.length), c)
  else
    let (reply, c) ← request wire (writeRequest address values) c
    return (answer (reply >>= writeReply address (UInt16.ofNat values.length)), c)

/-- Gives the connection up. -/
def close (wire : Wire m κ) (c : Client κ) : m (Client κ) := do
  if let some connection := c.connection then wire.hangUp connection
  return { c with connection := none }

/-- Whether there is a connection. -/
def isConnected (c : Client κ) : Bool := c.connection.isSome

/-- A client as a transport. -/
def transport (wire : Wire m κ) : Transport (StateT (Client κ) m) where
  connect c := connect wire c
  read address quantity c := read wire address quantity c
  write address values c := write wire address values c
  close c := do return ((), ← close wire c)
  isConnected c := pure (c.isConnected, c)

end Client

end FieldClock.Modbus
