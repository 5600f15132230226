import FieldClock.Command.Complaint
import FieldClock.Command.Options
import FieldClock.Command.Surroundings
import FieldClock.Modbus.Client
import FieldClock.Report.Json
import FieldClock.Report.Text
import FieldClock.SimulatedClock

/-!
# The program

From the words of a command line to an exit code: settle on the settings, synchronise every device, and report each one as
it is done. A report that cannot be written keeps no device from its visit.
-/

namespace FieldClock.Command

variable {m : Type → Type} [Monad m] {κ : Type}

/-! ### Settings -/

/-- The variable that may name a file of settings. -/
def settingsVariable : String := "RTC_SYNC_CONFIG"

/-- Loads the settings in the file at a path, which a complaint calls by `name`. -/
def loadFile (world : Surroundings m κ) (name path : String) : m (Except Complaint Settings) := do
  match Settings.ofFile path (← world.contents path) with
  | .error fault => return .error ⟨"Failed to load config from " ++ name, fault.messages⟩
  | .ok settings => return .ok settings

/-- Loads the settings in the file that the environment names, or the defaults if there is no such file. -/
def loadNamed (world : Surroundings m κ) : m (Except Complaint Settings) := do
  match ← world.lookUp settingsVariable with
  | none => return .ok .standard
  | some path =>
    if ← world.isThere path then loadFile world (settingsVariable ++ "=" ++ path) path
    else return .ok .standard

/-- Loads the settings: from the file of the options, else from the one that the environment names. -/
def load (world : Surroundings m κ) (options : Options) : m (Except Complaint Settings) :=
  match options.config with
  | some path => loadFile world path path
  | none => loadNamed world

/-- Lays options over settings. Devices replace those of the settings; a flag only ever switches on. -/
def Options.overlay (o : Options) (s : Settings) : Settings where
  timeout := s.timeout
  settleDelay := s.settleDelay
  applyUnitId := s.applyUnitId || o.applyUnitId
  registers := { s.registers with writeMsEnabled := s.registers.writeMsEnabled || o.writeMs }
  devices := if o.devices = [] then s.devices else o.devices

/-- Lays options over settings and checks what comes out. -/
def Options.settle (o : Options) (s : Settings) : Except Complaint Settings :=
  let s := o.overlay s
  match s.defect? with
  | some defect => .error ⟨"Invalid configuration", [defect.message]⟩
  | none => .ok s

/-- The settings that a run goes by. -/
def effectiveSettings (world : Surroundings m κ) (options : Options) : m (Except Complaint Settings) := do
  match ← load world options with
  | .error complaint => return .error complaint
  | .ok settings => return options.settle settings

/-! ### Devices -/

/-- A device of a run, simulated or reached over the network. -/
abbrev Device (κ : Type) := SimulatedClock ⊕ Modbus.Client κ

/-- How many seconds a simulated clock is behind the host. -/
def simulatedLag : UInt32 := 90

/-- The clock of a simulated device: behind the host by the lag, but not before the first device time. -/
def simulatedTime (host : DeviceTime) : DeviceTime where
  seconds := if host.seconds < simulatedLag then 0 else host.seconds - simulatedLag
  milliseconds := host.milliseconds

/-- The device of a target. -/
def device (clock : Clock m) (settings : Settings) (simulated : Bool) (target : Target) : m (Device κ) := do
  if simulated then
    let host := DeviceTime.ofInstant (← clock.now)
    return .inl { layout := settings.registers, clock := simulatedTime host }
  else return .inr { endpoint := .ofTarget settings target }

/-- The transport of a device. -/
def deviceTransport (wire : Modbus.Wire m κ) : Transport (StateT (Device κ) m) :=
  .either SimulatedClock.transport (Modbus.Client.transport wire)

/-! ### Reports -/

/-- The text of a report in a format. -/
def Format.report (layout : RegisterMap) (report : Report) : Format → String
  | .text => report.text layout
  | .json => report.jsonLine

/-- What a format puts before the reports, if anything. -/
def Format.heading? (settings : Settings) : Format → Option String
  | .text => some (banner settings.registers settings.devices.length)
  | .json => none

/-- The first fault in writing reports, if there was one. -/
abbrev Written := Except WriteFault Unit

/-- Writes a report, unless one could not be written before. -/
def writeReport (print : String → m Written) (layout : RegisterMap) (format : Format) (report : Report) :
    StateT Written m PUnit := do
  match ← get with
  | .error _ => return
  | .ok () => set (← liftM (print (format.report layout report)))

/-- Visits every device of the settings and writes their reports. -/
def visitAll (world : Surroundings m κ) (settings : Settings) (simulated : Bool) (format : Format) :
    StateT Written m (List (Visit (Device κ))) :=
  round (deviceTransport world.wire.lift) world.clock.lift settings
    (device world.clock.lift settings simulated) (writeReport world.print settings.registers format)
    settings.devices

/-- Writes the heading. -/
def writeHeading (print : String → m Written) (settings : Settings) (format : Format) : m Written :=
  match format.heading? settings with
  | none => return .ok ()
  | some text => print text

/-- Has the output pass on the reports, unless one could not be written before. -/
def passOn (flush : m Written) : Written → m Written
  | .error fault => return .error fault
  | .ok () => flush

/-- Writes the heading, visits every device, writes their reports and has the output pass them on. No device is visited
    without its heading. -/
def synchronise (world : Surroundings m κ) (settings : Settings) (simulated : Bool) (format : Format) :
    m Written := do
  match ← writeHeading world.print settings format with
  | .error fault => return .error fault
  | .ok () =>
    let (_, written) ← (visitAll world settings simulated format).run (.ok ())
    passOn world.flush written

/-! ### The command line -/

/-- The answer to a question for the version. -/
def versionText : String := "rtc-sync 0.1.0\n"

/-- The answer to a question for help. -/
def helpText : String :=
  "Synchronize Modbus TCP device clocks to host time\n\n" ++
    "Usage: rtc-sync [OPTIONS]\n\n" ++
    "Options:\n" ++
    "  -c, --config <FILE>          Path to a sync configuration file (TOML)\n" ++
    "  -d, --device <TARGET>        Device to sync as host[:port][/unit]. Repeatable; replaces the configured list\n" ++
    "      --write-ms               Also write the millisecond register\n" ++
    "      --apply-unit-id          Send each target's unit id instead of the default unit id\n" ++
    "  -s, --simulated              Sync in-memory simulated devices instead of real hardware\n" ++
    "      --format <FORMAT>        Report format [default: text] [possible values: text, json]\n" ++
    "  -l, --log-level <LOG_LEVEL>  Log level (trace, debug, info, warn, error) [default: warn]\n" ++
    "  -h, --help                   Print help\n" ++
    "  -V, --version                Print version\n"

/-- The exit code of a run that went through, whatever its devices did. -/
def exitDone : UInt32 := 0

/-- The exit code of a run that stopped. -/
def exitStopped : UInt32 := 1

/-- The exit code for a command line that asks for nothing. -/
def exitUsage : UInt32 := 2

/-- Complains and stops. -/
def stop (world : Surroundings m κ) (complaint : Complaint) : m UInt32 := do
  world.complain complaint.text
  return exitStopped

/-- Synchronises as options ask. -/
def runOptions (world : Surroundings m κ) (options : Options) : m UInt32 := do
  match ← effectiveSettings world options with
  | .error complaint => stop world complaint
  | .ok settings =>
    match ← synchronise world settings options.simulated (options.format.getD .text) with
    | .error fault => stop world ⟨"Failed to write report", [fault.message]⟩
    | .ok () => return exitDone

/-- Answers a command line that does not ask for a run. An answer that cannot be written is no fault. -/
def answerStop (world : Surroundings m κ) : Stop → m UInt32
  | .fault cause => do
    world.complain ("error: " ++ cause.message ++ "\n\nFor more information, try '--help'.\n")
    return exitUsage
  | .version => do
    let _ ← world.print versionText
    return exitDone
  | .help => do
    let _ ← world.print helpText
    return exitDone

/-- Runs the program with the words of its command line. -/
def run (world : Surroundings m κ) (words : List String) : m UInt32 :=
  match Options.ofWords words with
  | .error stop => answerStop world stop
  | .ok options => runOptions world options

end FieldClock.Command
