import FieldClock.Target
import FieldClock.Text.Numeral

/-!
# Reading targets

A target is written `host`, `host:port`, `host/unit` or `host:port/unit`. A host with colons of its own stands in brackets
before a port, and may stand bare without one.
-/

namespace FieldClock.Target

/-- Why a text is no target. -/
inductive Reason where
  | badUnit
  | unclosedBracket
  | badPort
  | emptyHost
deriving DecidableEq

/-- The words for a reason. -/
def Reason.text : Reason → String
  | .badUnit => "bad unit id"
  | .unclosedBracket => "unclosed '['"
  | .badPort => "bad port"
  | .emptyHost => "empty host"

/-- The message for a text that is no target. -/
def Reason.message (text : String) (r : Reason) : String :=
  "invalid configuration: device '" ++ text ++ "': " ++ r.text

/-- Splits at the first `sep`, which goes to neither side. -/
def splitFirst? (sep : Char) : List Char → Option (List Char × List Char)
  | [] => none
  | c :: cs => if c = sep then some ([], cs) else (splitFirst? sep cs).map fun (before, after) => (c :: before, after)

/-- Splits at the last `sep`, which goes to neither side. -/
def splitLast? (sep : Char) : List Char → Option (List Char × List Char)
  | [] => none
  | c :: cs =>
    match splitLast? sep cs with
    | some (before, after) => some (c :: before, after)
    | none => if c = sep then some ([], cs) else none

/-- Reads a port. -/
def readPort (cs : List Char) : Except Reason UInt16 :=
  match Numeral.readUpTo 65535 cs with
  | some n => .ok (UInt16.ofNat n)
  | none => .error .badPort

/-- Reads a unit number. -/
def readUnit (cs : List Char) : Except Reason UInt8 :=
  match Numeral.readUpTo 255 cs with
  | some n => .ok (UInt8.ofNat n)
  | none => .error .badUnit

/-- Reads what follows a bracketed host: nothing, or a colon and a port. -/
def readBehindBracket : List Char → Except Reason UInt16
  | [] => .ok defaultPort
  | ':' :: cs => readPort cs
  | _ => .error .badPort

/-- Reads a host and its port. A text with two or more colons outside brackets is a host. -/
def readEndpoint : List Char → Except Reason (List Char × UInt16)
  | '[' :: cs =>
    match splitFirst? ']' cs with
    | none => .error .unclosedBracket
    | some (host, behind) => (readBehindBracket behind).map (host, ·)
  | cs =>
    if cs.count ':' > 1 then .ok (cs, defaultPort)
    else
      match splitLast? ':' cs with
      | some (host, port) => (readPort port).map (host, ·)
      | none => .ok (cs, defaultPort)

/-- Reads the characters of a target. -/
def readChars (cs : List Char) : Except Reason Target := do
  let (endpoint, unitId) ←
    match splitLast? '/' cs with
    | some (endpoint, unit) => do
      let unitId ← readUnit unit
      pure (endpoint, unitId)
    | none => pure (cs, defaultUnit)
  let (host, port) ← readEndpoint endpoint
  if host = [] then .error .emptyHost
  else return ⟨String.ofList host, port, unitId⟩

/-- Reads a target. -/
def read (s : String) : Except Reason Target := readChars s.toList

end FieldClock.Target
