import FieldClock.Modbus.Wire

/-!
# Scripted peers

A peer that answers the k-th request on its n-th connection with the k-th reply prepared for that connection. The bytes
of all replies on a connection are one stream, so bytes that one request leaves unread meet the next.
-/

namespace FieldClock.Modbus

/-! ### Streams -/

/-- What has come over a connection and is not read yet. -/
structure Stream where
  unread : List UInt8 := []
  /-- Whether nothing more will come. -/
  ended : Bool := false
deriving DecidableEq

/-- Takes so many bytes off a stream. Too few of them are waited for in vain, unless the stream has ended. -/
def Stream.receive (s : Stream) (count : Nat) : Except IoFault (List UInt8 × Stream) :=
  if count ≤ s.unread.length then .ok (s.unread.take count, { s with unread := s.unread.drop count })
  else .error (if s.ended then .ended else .silent)

/-! ### Peers -/

/-- What the network does with an attempt to connect. -/
inductive Route where
  /-- It reaches somebody who listens. -/
  | listening
  /-- It reaches a host where nobody listens. -/
  | refusing
  /-- There is no way to the host. -/
  | unreachable
deriving DecidableEq

/-- The fault that an attempt to connect ends in, if it does. The name is looked up first, then the way is looked for,
    then the time for connecting begins. -/
def Route.fault? (route : Route) (endpoint : Endpoint) : Option DialFault :=
  if '\x00' ∈ endpoint.host.toList then
    some (.unresolvable endpoint.host "file name contained an unexpected NUL byte")
  else if route = .unreachable then some .unreachable
  else if endpoint.connectTimeout.isZero then some .zeroConnectTimeout
  else if route = .refusing then some .refused
  else if endpoint.ioTimeout.isZero then some .zeroReadTimeout
  else none

/-- One prepared reply. -/
structure Reply where
  bytes : List UInt8
  /-- Whether the stream ends behind it. -/
  ends : Bool := false
deriving DecidableEq

/-- A connection to a scripted peer: its number, the replies still to give, and the stream. -/
structure Line where
  number : Nat
  replies : List Reply
  stream : Stream := {}
deriving DecidableEq

/-- A scripted peer: what is prepared for the connections to come, and the requests on each connection made so far. -/
structure Peer where
  route : Route := .listening
  connections : List (List Reply) := []
  requests : List (List (List UInt8)) := []
deriving DecidableEq

namespace Peer

/-- Takes a connection, with the next prepared replies or none at all. -/
def accept (p : Peer) (endpoint : Endpoint) : Except DialFault Line × Peer :=
  match p.route.fault? endpoint with
  | some fault => (.error fault, p)
  | none =>
    (.ok { number := p.requests.length, replies := p.connections.headD [] },
      { p with connections := p.connections.tail, requests := p.requests ++ [[]] })

/-- Puts the next reply in the stream, which ends when there is none. Nothing comes behind an end. -/
def answer (line : Line) : Line :=
  match line.replies with
  | [] => { line with stream := { line.stream with ended := true } }
  | reply :: rest =>
    if line.stream.ended then { line with replies := rest }
    else { line with replies := rest, stream := ⟨line.stream.unread ++ reply.bytes, reply.ends⟩ }

/-- Takes a request down. -/
def record (p : Peer) (line : Line) (bytes : List UInt8) : Peer :=
  { p with requests := p.requests.modify line.number (· ++ [bytes]) }

/-- The wire to a scripted peer. -/
def wire {m : Type → Type} [Monad m] : Wire (StateT Peer m) Line where
  dial endpoint p := pure (p.accept endpoint)
  send line bytes p := pure (.ok (answer line), p.record line bytes)
  receive line count p :=
    pure ((line.stream.receive count).map fun (bytes, stream) => (bytes, { line with stream }), p)
  hangUp _ p := pure ((), p)

end Peer

end FieldClock.Modbus
