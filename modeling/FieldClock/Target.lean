/-!
# Targets

A device to synchronise: where it is reached and its unit number.
-/

namespace FieldClock

/-- The port of Modbus TCP. -/
def defaultPort : UInt16 := 502

/-- The unit number of a device that has none of its own. -/
def defaultUnit : UInt8 := 1

/-- A device to synchronise. -/
structure Target where
  host : String
  port : UInt16 := defaultPort
  unitId : UInt8 := defaultUnit
deriving DecidableEq

namespace Target

/-- The host as it stands before a port: in brackets if it holds a colon. -/
def hostText (host : String) : String := if ':' ∈ host.toList then "[" ++ host ++ "]" else host

/-- The text of a target. -/
def text (t : Target) : String :=
  hostText t.host ++ ":" ++ toString t.port.toNat ++ " unit=" ++ toString t.unitId.toNat

end Target

end FieldClock
