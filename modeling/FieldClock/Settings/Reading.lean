import FieldClock.Decimal.Shortest
import FieldClock.Duration.Reading
import FieldClock.Settings
import FieldClock.Text.Quoted
import FieldClock.Toml.Reading

/-!
# Reading settings

A document lays its values over the defaults. Keys that no setting has are ignored, keys of settings are read in the order
of the document, and the first value that does not fit is the fault. A layout or a target may also be an array of its
fields in order, whose missing tail keeps the defaults.
-/

namespace FieldClock

/-- What a value was expected to be. -/
inductive Expected where
  | text
  | boolean
  | sequence
  | word
  | byte
  | layout
  | target
deriving DecidableEq

/-- The words for what was expected. -/
def Expected.phrase : Expected → String
  | .text => "a string"
  | .boolean => "a boolean"
  | .sequence => "a sequence"
  | .word => "u16"
  | .byte => "u8"
  | .layout => "struct RegisterMap"
  | .target => "struct DeviceTarget"

/-- How a document does not fit the settings. -/
inductive Mismatch where
  /-- A value of another kind, in the words that describe it. -/
  | wrongType (found : String) (expected : Expected)
  /-- A whole number out of range. -/
  | wrongNumber (found : Int) (expected : Expected)
  | missingHost
  /-- A target as an array without a host. -/
  | emptyTarget
  | duration (cause : Duration.Fault)
deriving DecidableEq

/-- The message for a mismatch. -/
def Mismatch.message : Mismatch → String
  | .wrongType found expected => "invalid type: " ++ found ++ ", expected " ++ expected.phrase
  | .wrongNumber found expected =>
    "invalid value: integer `" ++ Numeral.signed found ++ "`, expected " ++ expected.phrase
  | .missingHost => "missing field `host`"
  | .emptyTarget => "invalid length 0, expected struct DeviceTarget with 3 elements"
  | .duration cause => cause.message

/-- Why a text gives no settings. -/
inductive SettingsFault where
  /-- It is no document. -/
  | syntaxError
  | mismatch (cause : Mismatch)
  | invalid (defect : Defect)
deriving DecidableEq

/-- The description of a value of an unexpected kind. -/
def Toml.Value.description : Toml.Value → String
  | .text s => "string " ++ Text.Quoted.encode s
  | .integer n => "integer `" ++ Numeral.signed n ++ "`"
  | .float x => "floating point `" ++ x.text ++ "`"
  | .boolean b => "boolean `" ++ (if b then "true" else "false") ++ "`"
  | .moment => "map"
  | .array _ _ => "sequence"
  | .table _ _ => "map"

namespace Settings

open Toml (Value Entries)

/-! ### Single values -/

/-- A value of another kind than expected. -/
def wrongType {α : Type} (expected : Expected) (v : Value) : Except Mismatch α :=
  .error (.wrongType v.description expected)

/-- Reads a text. -/
def readText : Value → Except Mismatch String
  | .text s => .ok s
  | v => wrongType .text v

/-- Reads a truth value. -/
def readBoolean : Value → Except Mismatch Bool
  | .boolean b => .ok b
  | v => wrongType .boolean v

/-- Reads a number of 16 bits. -/
def readWord : Value → Except Mismatch UInt16
  | .integer n => if 0 ≤ n ∧ n < 65536 then .ok (UInt16.ofNat n.toNat) else .error (.wrongNumber n .word)
  | v => wrongType .word v

/-- Reads a number of 8 bits. -/
def readByte : Value → Except Mismatch UInt8
  | .integer n => if 0 ≤ n ∧ n < 256 then .ok (UInt8.ofNat n.toNat) else .error (.wrongNumber n .byte)
  | v => wrongType .byte v

/-- Reads a duration. -/
def readDuration (v : Value) : Except Mismatch Duration := do
  match Duration.read (← readText v) with
  | .ok d => return d
  | .error cause => .error (.duration cause)

/-! ### Layouts -/

/-- Lays one entry over a layout. -/
def setRegister (m : RegisterMap) (key : String) (v : Value) : Except Mismatch RegisterMap := do
  if key = "read_address" then return { m with readAddress := ← readWord v }
  else if key = "read_count" then return { m with readCount := ← readWord v }
  else if key = "write_epoch_address" then return { m with writeEpochAddress := ← readWord v }
  else if key = "write_epoch_count" then return { m with writeEpochCount := ← readWord v }
  else if key = "write_ms_enabled" then return { m with writeMsEnabled := ← readBoolean v }
  else if key = "write_ms_address" then return { m with writeMsAddress := ← readWord v }
  else return m

/-- The keys of a layout in the order of its fields. -/
def registerKeys : List String :=
  ["read_address", "read_count", "write_epoch_address", "write_epoch_count", "write_ms_enabled", "write_ms_address"]

/-- Reads a layout. A moment is a table without a key of a layout. -/
def readLayout : Value → Except Mismatch RegisterMap
  | .table _ entries => entries.foldlM (fun m (key, v) => setRegister m key v) {}
  | .array _ items => (registerKeys.zip items).foldlM (fun m (key, v) => setRegister m key v) {}
  | .moment => .ok {}
  | v => wrongType .layout v

/-! ### Targets -/

/-- The fields of a target that were read; the host has no default. -/
structure TargetFields where
  host : Option String := none
  port : UInt16 := defaultPort
  unitId : UInt8 := defaultUnit

/-- Lays one entry over the fields of a target. -/
def setTarget (t : TargetFields) (key : String) (v : Value) : Except Mismatch TargetFields := do
  if key = "host" then return { t with host := some (← readText v) }
  else if key = "port" then return { t with port := ← readWord v }
  else if key = "unit_id" then return { t with unitId := ← readByte v }
  else return t

/-- The keys of a target in the order of its fields. -/
def targetKeys : List String := ["host", "port", "unit_id"]

/-- The target of fields, which must have a host. -/
def TargetFields.target (t : TargetFields) (missing : Mismatch) : Except Mismatch Target :=
  match t.host with
  | some host => .ok ⟨host, t.port, t.unitId⟩
  | none => .error missing

/-- Reads a target. -/
def readTarget : Value → Except Mismatch Target
  | .table _ entries => do
    (← entries.foldlM (fun t (key, v) => setTarget t key v) {}).target .missingHost
  | .array _ items => do
    (← (targetKeys.zip items).foldlM (fun t (key, v) => setTarget t key v) {}).target .emptyTarget
  | .moment => .error .missingHost
  | v => wrongType .target v

/-- Reads the targets of an array. -/
def readTargets : Value → Except Mismatch (List Target)
  | .array _ items => items.mapM readTarget
  | v => wrongType .sequence v

/-! ### Settings -/

/-- Lays one entry of a document over settings. -/
def set (s : Settings) (key : String) (v : Value) : Except Mismatch Settings := do
  if key = "timeout" then return { s with timeout := ← readDuration v }
  else if key = "settle_delay" then return { s with settleDelay := ← readDuration v }
  else if key = "apply_unit_id" then return { s with applyUnitId := ← readBoolean v }
  else if key = "registers" then return { s with registers := ← readLayout v }
  else if key = "devices" then return { s with devices := ← readTargets v }
  else return s

/-- Lays a document over the defaults. -/
def ofEntries (entries : Entries) : Except Mismatch Settings := entries.foldlM (fun s (key, v) => s.set key v) .standard

/-- Settings without a defect. -/
def validated (s : Settings) : Except SettingsFault Settings :=
  match s.defect? with
  | some defect => .error (.invalid defect)
  | none => .ok s

/-- Reads settings from a document and checks them. -/
def ofToml (text : String) : Except SettingsFault Settings :=
  match Toml.read text with
  | none => .error .syntaxError
  | some entries =>
    match ofEntries entries with
    | .error cause => .error (.mismatch cause)
    | .ok s => s.validated

end Settings

end FieldClock
