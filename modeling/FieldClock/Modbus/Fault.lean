/-!
# Modbus faults

What can go wrong between a client and its device, from opening the connection to the fields of a reply, and the message
for each.
-/

namespace FieldClock.Modbus

/-- An exception that a device answers a request with. -/
inductive Exception where
  | illegalFunction
  | illegalDataAddress
  | illegalDataValue
  | serverDeviceFailure
  | acknowledge
  | serverDeviceBusy
  | gatewayPathUnavailable
  | gatewayTargetFailed
  /-- A code that the protocol does not name. -/
  | unnamed (code : UInt8)
  /-- An exception without a code. -/
  | missing
deriving DecidableEq

namespace Exception

/-- The exception with a code. -/
def ofCode (code : UInt8) : Exception :=
  if code = 0x01 then .illegalFunction
  else if code = 0x02 then .illegalDataAddress
  else if code = 0x03 then .illegalDataValue
  else if code = 0x04 then .serverDeviceFailure
  else if code = 0x05 then .acknowledge
  else if code = 0x06 then .serverDeviceBusy
  else if code = 0x0A then .gatewayPathUnavailable
  else if code = 0x0B then .gatewayTargetFailed
  else .unnamed code

end Exception

/-- A byte as two hexadecimal digits in upper case. -/
def byteText (b : UInt8) : String :=
  String.ofList (([b.toNat / 16, b.toNat % 16].map Nat.digitChar).map Char.toUpper)

/-- The name of an exception. -/
def Exception.name : Exception → String
  | .illegalFunction => "Illegal Function"
  | .illegalDataAddress => "Illegal Data Address"
  | .illegalDataValue => "Illegal Data Value"
  | .serverDeviceFailure => "Server Device Failure"
  | .acknowledge => "Acknowledge"
  | .serverDeviceBusy => "Server Device Busy"
  | .gatewayPathUnavailable => "Gateway Path Unavailable"
  | .gatewayTargetFailed => "Gateway Target Failed"
  | .unnamed code => "Unknown (0x" ++ byteText code ++ ")"
  | .missing => "Unknown"

/-- Why bytes could not be sent or received. -/
inductive IoFault where
  /-- The stream ended before all bytes came. -/
  | ended
  /-- The bytes did not come in time. -/
  | silent
  /-- Another fault, in the words of the system. -/
  | other (text : String)
deriving DecidableEq

/-- The message for an input or output fault. -/
def IoFault.message : IoFault → String
  | .ended => "failed to fill whole buffer"
  | .silent => "Resource temporarily unavailable (os error 11)"
  | .other text => text

/-- An option of a fresh connection. -/
inductive ConnectionOption where
  | readTimeout
  | writeTimeout
  | noDelay
deriving DecidableEq

/-- The name of an option. -/
def ConnectionOption.name : ConnectionOption → String
  | .readTimeout => "read timeout"
  | .writeTimeout => "write timeout"
  | .noDelay => "TCP_NODELAY"

/-- Why no connection could be opened. -/
inductive DialFault where
  /-- The host has no address. -/
  | unresolvable (host reason : String)
  | unreachable
  | refused
  /-- Connecting was given no time at all. -/
  | zeroConnectTimeout
  /-- Reading was given no time at all. -/
  | zeroReadTimeout
  /-- Writing was given no time at all. -/
  | zeroWriteTimeout
  /-- An option could not be set, in the words of the system. -/
  | unset (setting : ConnectionOption) (text : String)
  /-- Another fault, in the words of the system. -/
  | other (text : String)
deriving DecidableEq

/-- The message for an option that could not be set. -/
def ConnectionOption.unsetMessage (setting : ConnectionOption) (text : String) : String :=
  "Failed to set " ++ setting.name ++ ": " ++ text

/-- The message for a fault in connecting. -/
def DialFault.message : DialFault → String
  | .unresolvable host reason => "Connection failed: cannot resolve " ++ host ++ ": " ++ reason
  | .unreachable => "Connection failed: Network is unreachable (os error 101)"
  | .refused => "Connection failed: Connection refused (os error 111)"
  | .zeroConnectTimeout => "Connection failed: cannot set a 0 duration timeout"
  | .zeroReadTimeout => ConnectionOption.readTimeout.unsetMessage "cannot set a 0 duration timeout"
  | .zeroWriteTimeout => ConnectionOption.writeTimeout.unsetMessage "cannot set a 0 duration timeout"
  | .unset setting text => setting.unsetMessage text
  | .other text => "Connection failed: " ++ text

/-- Why a request to a device failed. -/
inductive Fault where
  /-- No connection could be opened. -/
  | dial (cause : DialFault)
  | notConnected
  /-- A request for a number of registers that one frame cannot carry. -/
  | registerCount (count : Nat)
  /-- The request could not be sent. -/
  | send (cause : IoFault)
  /-- The header of the reply did not come. -/
  | receiveHeader (cause : IoFault)
  /-- The header of the reply is cut short. -/
  | headerTooShort (count : Nat)
  /-- The rest of the reply did not come. -/
  | receivePdu (cause : IoFault)
  | transactionMismatch (expected found : UInt16)
  | wrongProtocol (found : UInt16)
  | unitMismatch (expected found : UInt8)
  /-- A reply of a length that no frame has. -/
  | responseLength (count : Nat)
  /-- The device answers with an exception. -/
  | exception (cause : Exception)
  | responseTooShort
  | functionMismatch (expected found : UInt8)
  /-- A reply that announces another number of data bytes than was asked for. -/
  | byteCount (expected found : Nat)
  /-- A reply that ends before its data does. -/
  | missingData (expected : Nat)
  /-- A reply to a write that repeats another address or quantity. -/
  | echoMismatch (foundAddress address foundQuantity quantity : UInt16)
deriving DecidableEq

/-- The message for a failed request. -/
def Fault.message : Fault → String
  | .dial cause => cause.message
  | .notConnected => "Not connected to Modbus server"
  | .registerCount count => "Invalid register count: " ++ toString count
  | .send cause => "Send failed: " ++ cause.message
  | .receiveHeader cause => "Receive header failed: " ++ cause.message
  | .headerTooShort count => "MBAP header too short: " ++ toString count ++ " bytes"
  | .receivePdu cause => "Receive PDU failed: " ++ cause.message
  | .transactionMismatch expected found =>
    "Transaction ID mismatch: expected " ++ toString expected.toNat ++ ", got " ++ toString found.toNat
  | .wrongProtocol found => "Invalid protocol ID: " ++ toString found.toNat
  | .unitMismatch expected found =>
    "Unit ID mismatch: expected " ++ toString expected.toNat ++ ", got " ++ toString found.toNat
  | .responseLength count => "Invalid response length: " ++ toString count ++ " bytes"
  | .exception cause => "Modbus exception: " ++ cause.name
  | .responseTooShort => "Response too short"
  | .functionMismatch expected found =>
    "Function code mismatch: expected 0x" ++ byteText expected ++ ", got 0x" ++ byteText found
  | .byteCount expected found => "Expected " ++ toString expected ++ " bytes, got " ++ toString found
  | .missingData expected => "Response too short: expected " ++ toString expected ++ " bytes"
  | .echoMismatch foundAddress address foundQuantity quantity =>
    "Write registers response mismatch: addr=" ++ toString foundAddress.toNat ++ "/" ++ toString address.toNat ++
      ", qty=" ++ toString foundQuantity.toNat ++ "/" ++ toString quantity.toNat

end FieldClock.Modbus
