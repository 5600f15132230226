import FieldClock.Modbus.Fault
import FieldClock.Settings

/-!
# Wires

A wire opens connections to an endpoint and carries bytes both ways. What a connection is, is the wire's own affair: a
socket, or a stream of bytes that a peer has given.
-/

namespace FieldClock.Modbus

/-- Where a client connects, and how long it waits. -/
structure Endpoint where
  host : String := "127.0.0.1"
  port : UInt16 := defaultPort
  /-- The unit number in every request. -/
  unitId : UInt8 := defaultUnit
  connectTimeout : Duration := .ofSeconds 2
  ioTimeout : Duration := .ofSeconds 2
deriving DecidableEq

/-- The endpoint of a target. The unit of the target counts only if the settings say so. -/
def Endpoint.ofTarget (settings : Settings) (target : Target) : Endpoint where
  host := target.host
  port := target.port
  unitId := if settings.applyUnitId then target.unitId else defaultUnit
  connectTimeout := settings.timeout
  ioTimeout := settings.timeout

/-- A wire with connections `κ`. -/
structure Wire (m : Type → Type) (κ : Type) where
  /-- Opens a connection. -/
  dial : Endpoint → m (Except DialFault κ)
  /-- Sends bytes. -/
  send : κ → List UInt8 → m (Except IoFault κ)
  /-- Receives exactly so many bytes. -/
  receive : κ → Nat → m (Except IoFault (List UInt8 × κ))
  /-- Gives a connection up. -/
  hangUp : κ → m Unit

/-- A wire in a larger monad. -/
def Wire.lift {m n : Type → Type} [MonadLiftT m n] {κ : Type} (w : Wire m κ) : Wire n κ where
  dial endpoint := liftM (w.dial endpoint)
  send connection bytes := liftM (w.send connection bytes)
  receive connection count := liftM (w.receive connection count)
  hangUp connection := liftM (w.hangUp connection)

end FieldClock.Modbus
