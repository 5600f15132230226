import FieldClock.DeviceTime
import FieldClock.Modbus.Fault

/-!
# Faults

Why a request to a device failed or its answer could not be used, whatever the device is reached by.
-/

namespace FieldClock

/-- A fault on the way to a device. -/
inductive FieldbusFault where
  /-- A fault of a Modbus request. -/
  | modbus (cause : Modbus.Fault)
  /-- The simulated device takes no connections. -/
  | simulatedOffline
  /-- A request to a simulated device without a connection. -/
  | simulatedNotConnected
  /-- A simulated device fails a read. -/
  | simulatedReadFailure
  /-- A simulated device does not take a write. -/
  | simulatedWriteRefusal
  /-- A fault that was found elsewhere, in the words it was told in. -/
  | reported (text : String)
deriving DecidableEq

/-- The message for a fault on the way to a device. -/
def FieldbusFault.message : FieldbusFault → String
  | .modbus cause => cause.message
  | .simulatedOffline => "Connection failed: simulated device offline"
  | .simulatedNotConnected => "Not connected to simulated device"
  | .simulatedReadFailure => "Modbus exception: Server Device Failure"
  | .simulatedWriteRefusal => "Modbus exception: Illegal Data Address"
  | .reported text => text

/-- Why a request failed. -/
inductive Fault where
  | configuration (text : String)
  | fieldbus (cause : FieldbusFault)
  | inputOutput (text : String)
  | malformed (cause : Malformed)
deriving DecidableEq

/-- The message for a failed request. -/
def Fault.message : Fault → String
  | .configuration text => "configuration error: " ++ text
  | .fieldbus cause => "fieldbus error: " ++ cause.message
  | .inputOutput text => "I/O error: " ++ text
  | .malformed cause => "malformed payload: " ++ cause.message

end FieldClock
