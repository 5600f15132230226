import Std.Async.DNS
import Std.Async.TCP
import Std.Async.Timer
import FieldClock.Live.Fault
import FieldClock.Modbus.Wire

/-!
# The network

Connections over TCP. Connecting tries every address of a host in turn; each step of receiving has the whole time that the
endpoint gives it.
-/

namespace FieldClock.Live

open Std.Async (Async)
open Std.Net (IPAddr IPv4Addr IPv6Addr SocketAddress)

/-- The whole milliseconds of a duration, rounded up. -/
def millisecondsOf (d : Duration) : Nat := (d.nanoseconds + 999999) / 1000000

/-- Runs an action for at most so long. -/
def within {α : Type} (limit : Duration) (act : Async α) : IO (Option α) := do
  let action ← act.asTask
  let timer ← (Std.Async.sleep (.ofNat (millisecondsOf limit))).asTask
  match ← IO.waitAny [action.run.map (·.map some), timer.run.map (·.map fun _ => none)] with
  | .ok answer => return answer
  | .error e => throw e

/-- An open connection, and how long an answer may take on it. -/
structure Connection where
  socket : Std.Async.TCP.Socket.Client
  ioTimeout : Duration

/-! ### Connecting -/

/-- The addresses of a host: its own, if it is written as one, else those that the system knows it by. -/
def addresses (host : String) : IO (List IPAddr) := do
  if let some a := IPv4Addr.ofString host then return [.v4 a]
  if let some a := IPv6Addr.ofString host then return [.v6 a]
  return (← (Std.Async.DNS.getAddrInfo host "").block).toList

/-- The end of a connection at an address and a port. -/
def socketAddress (address : IPAddr) (port : UInt16) : SocketAddress :=
  match address with
  | .v4 a => .v4 ⟨a, port⟩
  | .v6 a => .v6 ⟨a, port⟩

/-- Sets the options of a fresh connection. The timeouts are kept beside the socket, and only no time at all is refused. -/
def setOptions (endpoint : Modbus.Endpoint) (socket : Std.Async.TCP.Socket.Client) :
    IO (Except Modbus.DialFault Connection) := do
  if endpoint.ioTimeout.isZero then return .error .zeroReadTimeout
  match ← guarded (fun e => Modbus.DialFault.unset .noDelay (message e)) socket.noDelay with
  | .error fault => return .error fault
  | .ok () => return .ok ⟨socket, endpoint.ioTimeout⟩

/-- Connects to one address. -/
def dialAddress (endpoint : Modbus.Endpoint) (address : IPAddr) : IO (Except Modbus.DialFault Connection) := do
  if endpoint.connectTimeout.isZero then return .error .zeroConnectTimeout
  let attempt : IO (Option Std.Async.TCP.Socket.Client) := do
    let socket ← Std.Async.TCP.Socket.Client.mk
    let connected ← within endpoint.connectTimeout (socket.connect (socketAddress address endpoint.port))
    return connected.map fun () => socket
  match ← guarded dialFault attempt with
  | .error fault => return .error fault
  | .ok none => return .error (.other "connection timed out")
  | .ok (some socket) => setOptions endpoint socket

/-- Connects to the first address that can be connected to; without one, the fault of the last one counts. -/
def dialAddresses (endpoint : Modbus.Endpoint) (last : Modbus.DialFault) :
    List IPAddr → IO (Except Modbus.DialFault Connection)
  | [] => return .error last
  | address :: rest => do
    match ← dialAddress endpoint address with
    | .ok connection => return .ok connection
    | .error fault => dialAddresses endpoint fault rest

/-- Connects to an endpoint. -/
def dial (endpoint : Modbus.Endpoint) : IO (Except Modbus.DialFault Connection) := do
  if '\x00' ∈ endpoint.host.toList then
    return .error (.unresolvable endpoint.host "file name contained an unexpected NUL byte")
  match ← guarded lookUpMessage (addresses endpoint.host) with
  | .error reason =>
    return .error (.unresolvable endpoint.host reason)
  | .ok found => dialAddresses endpoint (.other ("no addresses for " ++ endpoint.host)) found

/-! ### Talking -/

/-- Receives more bytes until there are `count`, in at most `fuel` steps; every step brings at least one. -/
def receiveMore (connection : Connection) (count : Nat) :
    (fuel : Nat) → ByteArray → IO (Except Modbus.IoFault ByteArray)
  | 0, bytes => return .ok bytes
  | fuel + 1, bytes => do
    if count ≤ bytes.size then return .ok bytes
    let missing := (count - bytes.size).toUInt64
    match ← guarded ioFault (within connection.ioTimeout (connection.socket.recv? missing)) with
    | .error fault => return .error fault
    | .ok none => return .error .silent
    | .ok (some none) => return .error .ended
    | .ok (some (some more)) => receiveMore connection count fuel (bytes ++ more)

/-- Sends bytes. -/
def send (connection : Connection) (bytes : List UInt8) : IO (Except Modbus.IoFault Connection) := do
  match ← guarded ioFault (within connection.ioTimeout (connection.socket.send ⟨bytes.toArray⟩)) with
  | .error fault => return .error fault
  | .ok none => return .error .silent
  | .ok (some ()) => return .ok connection

/-- Receives exactly so many bytes. -/
def receive (connection : Connection) (count : Nat) :
    IO (Except Modbus.IoFault (List UInt8 × Connection)) := do
  match ← receiveMore connection count count ByteArray.empty with
  | .error fault => return .error fault
  | .ok bytes => return .ok (bytes.toList, connection)

/-- Ends a connection. The system closes the socket when nothing holds it any more. -/
def hangUp (connection : Connection) : IO PUnit := do
  let _ ← guarded message (within connection.ioTimeout connection.socket.shutdown)

/-- The wire of the system's network. -/
def wire : Modbus.Wire IO Connection where
  dial := dial
  send := send
  receive := receive
  hangUp := hangUp

end FieldClock.Live
