import FieldClock.Target.Reading

/-!
# Options

What the words of a command line ask for. Words are read from left to right and the first fault ends the reading; a question
for the version or for help is an answer at once, whatever stands to its right.
-/

namespace FieldClock.Command

/-- How reports are written. -/
inductive Format where
  | text
  | json
deriving DecidableEq

/-- What a command line asks for. -/
structure Options where
  /-- The file of settings. -/
  config : Option String := none
  /-- The devices to synchronise in place of those in the settings. -/
  devices : List Target := []
  writeMs : Bool := false
  applyUnitId : Bool := false
  /-- Whether the devices are simulated ones. -/
  simulated : Bool := false
  format : Option Format := none
  logLevel : Option String := none
deriving DecidableEq

/-- A name that a command line can use. -/
inductive Name where
  | config
  | device
  | writeMs
  | applyUnitId
  | simulated
  | format
  | logLevel
  | help
  | version
deriving DecidableEq

namespace Name

/-- The long form of a name, which follows two hyphens. -/
def long : Name → String
  | config => "config"
  | device => "device"
  | writeMs => "write-ms"
  | applyUnitId => "apply-unit-id"
  | simulated => "simulated"
  | format => "format"
  | logLevel => "log-level"
  | help => "help"
  | version => "version"

/-- The letter of a name, which follows one hyphen, if it has one. -/
def short? : Name → Option Char
  | config => some 'c'
  | device => some 'd'
  | writeMs => none
  | applyUnitId => none
  | simulated => some 's'
  | format => none
  | logLevel => some 'l'
  | help => some 'h'
  | version => some 'V'

/-- Whether a value follows a name. -/
def takesValue : Name → Bool
  | config => true
  | device => true
  | format => true
  | logLevel => true
  | _ => false

/-- All names. -/
def all : List Name :=
  [config, device, writeMs, applyUnitId, simulated, format, logLevel, help, version]

/-- The name with a long form. Forms are not shortened. -/
def ofLong? (form : List Char) : Option Name := all.find? (·.long.toList = form)

/-- The name with a letter. -/
def ofShort? (c : Char) : Option Name := all.find? (·.short? = some c)

end Name

/-- Why the words of a command line ask for nothing. -/
inductive UsageFault where
  | unknown (word : String)
  /-- A word that follows no name. -/
  | unexpected (word : String)
  | missingValue (name : Name)
  | emptyValue (name : Name)
  /-- A value for a name that takes none. -/
  | needlessValue (name : Name)
  /-- A name given again that can be given once. -/
  | repeated (name : Name)
  | badTarget (text : String) (reason : Target.Reason)
  | badFormat (text : String)
deriving DecidableEq

/-- The message for a fault of usage. -/
def UsageFault.message : UsageFault → String
  | .unknown word => "unexpected argument '" ++ word ++ "' found"
  | .unexpected word => "unexpected argument '" ++ word ++ "' found"
  | .missingValue name => "a value is required for '--" ++ name.long ++ "' but none was supplied"
  | .emptyValue name => "a value is required for '--" ++ name.long ++ "' but none was supplied"
  | .needlessValue name => "unexpected value for '--" ++ name.long ++ "' found; no more were expected"
  | .repeated name => "the argument '--" ++ name.long ++ "' cannot be used multiple times"
  | .badTarget text reason => "invalid value '" ++ text ++ "' for '--device': " ++ reason.message text
  | .badFormat text => "invalid value '" ++ text ++ "' for '--format'"

/-- Why reading ends before the last word. -/
inductive Stop where
  | fault (cause : UsageFault)
  | version
  | help
deriving DecidableEq

/-! ### Values -/

/-- Reads a format. -/
def Format.ofText? (s : String) : Option Format :=
  if s = "text" then some .text else if s = "json" then some .json else none

/-- Gives a name its value. -/
def Options.setValue (o : Options) (name : Name) (value : String) : Except Stop Options :=
  match name with
  | .config =>
    if o.config.isSome then .error (.fault (.repeated .config))
    else if value = "" then .error (.fault (.emptyValue .config))
    else .ok { o with config := some value }
  | .device =>
    match Target.read value with
    | .ok target => .ok { o with devices := o.devices ++ [target] }
    | .error reason => .error (.fault (.badTarget value reason))
  | .format =>
    if o.format.isSome then .error (.fault (.repeated .format))
    else
      match Format.ofText? value with
      | some format => .ok { o with format := some format }
      | none => .error (.fault (.badFormat value))
  | .logLevel =>
    if o.logLevel.isSome then .error (.fault (.repeated .logLevel))
    else .ok { o with logLevel := some value }
  | name => .error (.fault (.needlessValue name))

/-- Takes in a name that needs no value. -/
def Options.setFlag (o : Options) (name : Name) : Except Stop Options :=
  match name with
  | .writeMs =>
    if o.writeMs then .error (.fault (.repeated .writeMs)) else .ok { o with writeMs := true }
  | .applyUnitId =>
    if o.applyUnitId then .error (.fault (.repeated .applyUnitId)) else .ok { o with applyUnitId := true }
  | .simulated =>
    if o.simulated then .error (.fault (.repeated .simulated)) else .ok { o with simulated := true }
  | .help => .error .help
  | .version => .error .version
  | name => .error (.fault (.missingValue name))

/-! ### Words -/

/-- Options so far, and the name that the next word is the value of. -/
structure Progress where
  options : Options := {}
  awaiting : Option Name := none
deriving DecidableEq

/-- Takes in a name and the value attached to it. -/
def Progress.name (p : Progress) (name : Name) : Option (List Char) → Except Stop Progress
  | some value => do return ⟨← p.options.setValue name (String.ofList value), none⟩
  | none =>
    if name.takesValue then .ok ⟨p.options, some name⟩
    else do return ⟨← p.options.setFlag name, none⟩

/-- Takes in what follows two hyphens: a long form, and a value behind a first `=`. -/
def Progress.long (p : Progress) (word : List Char) : Except Stop Progress :=
  let form := word.takeWhile (· != '=')
  let value := match word.dropWhile (· != '=') with
    | [] => none
    | _ :: value => some value
  match Name.ofLong? form with
  | none => .error (.fault (.unknown (String.ofList ('-' :: '-' :: word))))
  | some name => p.name name value

/-- The value that stands in the same word as its letter, with or without `=` before it. -/
def attached? : List Char → Option (List Char)
  | [] => none
  | '=' :: value => some value
  | value => some value

/-- Takes in what follows one hyphen: letters, of which one that takes a value ends the word. -/
def Progress.letters (p : Progress) : List Char → Except Stop Progress
  | [] => .ok p
  | c :: cs =>
    match Name.ofShort? c with
    | none => .error (.fault (.unknown (String.ofList ['-', c])))
    | some name =>
      if name.takesValue then p.name name (attached? cs)
      else do (← p.name name none).letters cs

/-- A name may not be left without its value. -/
def Progress.settled (p : Progress) : Except Stop Progress :=
  match p.awaiting with
  | some name => .error (.fault (.missingValue name))
  | none => .ok p

/-- Takes in a word without names: the value that is awaited. -/
def Progress.value (p : Progress) (word : String) : Except Stop Progress :=
  match p.awaiting with
  | some name => do return ⟨← p.options.setValue name word, none⟩
  | none => .error (.fault (.unexpected word))

/-- Takes in one word. Names may not follow a name that awaits its value. -/
def Progress.word (p : Progress) (word : String) : Except Stop Progress :=
  match word.toList with
  | '-' :: '-' :: rest => do (← p.settled).long rest
  | '-' :: c :: rest => do (← p.settled).letters (c :: rest)
  | _ => p.value word

/-- Takes in the words behind two hyphens alone, of which there may be none. -/
def Progress.trailing (p : Progress) : List String → Except Stop Progress
  | [] => .ok p
  | word :: _ => .error (.fault (.unexpected word))

/-- Takes in words. -/
def Progress.words (p : Progress) : List String → Except Stop Progress
  | [] => p.settled
  | word :: rest =>
    if word = "--" then do (← p.settled).trailing rest
    else do (← p.word word).words rest

/-- Reads the words of a command line. -/
def Options.ofWords (words : List String) : Except Stop Options := do
  return (← Progress.words {} words).options

end FieldClock.Command
