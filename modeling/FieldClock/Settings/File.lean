import FieldClock.Settings.Reading

/-!
# Settings from a file

A file holds one document in UTF-8. A fault in loading one has a message and, where it comes from another fault, the message
of that behind it.
-/

namespace FieldClock

/-- Why a file gives no text. -/
inductive FileFault where
  | notFound
  | isDirectory
  /-- The bytes are not UTF-8. -/
  | notText
  /-- Another fault, in the words of the system. -/
  | other (text : String)
deriving DecidableEq

/-- The message for a file that gives no text. -/
def FileFault.message : FileFault → String
  | .notFound => "No such file or directory (os error 2)"
  | .isDirectory => "Is a directory (os error 21)"
  | .notText => "stream did not contain valid UTF-8"
  | .other text => text

/-- Why a file gives no settings. -/
inductive LoadFault where
  | file (path : String) (cause : FileFault)
  | settings (cause : SettingsFault)
deriving DecidableEq

namespace LoadFault

/-- The messages for a fault in loading, the outermost first. -/
def messages : LoadFault → List String
  | .file path cause => ["failed to read config file " ++ path ++ ": " ++ cause.message, cause.message]
  | .settings .syntaxError => ["failed to parse TOML: not a TOML document", "not a TOML document"]
  | .settings (.mismatch cause) => ["failed to parse TOML: " ++ cause.message, cause.message]
  | .settings (.invalid defect) => [defect.message]

/-- The outermost message for a fault in loading. -/
def message (f : LoadFault) : String := f.messages.headD ""

end LoadFault

/-- Loads settings from the bytes of a file, or from the fault in reading it. -/
def Settings.ofFile (path : String) : Except FileFault ByteArray → Except LoadFault Settings
  | .error cause => .error (.file path cause)
  | .ok bytes =>
    match String.fromUTF8? bytes with
    | none => .error (.file path .notText)
    | some text =>
      match ofToml text with
      | .error cause => .error (.settings cause)
      | .ok s => .ok s

end FieldClock
