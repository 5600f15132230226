import FieldClock.Proofs.Exchange.Conversation
import FieldClock.Proofs.SimulatedClock.Registers

/-!
# The exchange with a simulated device

What an exchange makes of the clock of a simulated device, whichever of its faults are switched on. The seconds and the
milliseconds are two writes: the clock can be left with the new seconds and its old milliseconds, but only when the second
write is the one that failed.
-/

namespace FieldClock

/-- The exchange with a simulated device while the clock of the host stands still: its outcome, and the device as it leaves
    it. -/
def exchangeWith (settings : Settings) (now : Instant) (d : SimulatedClock) : Outcome × SimulatedClock :=
  (exchange SimulatedClock.transport (standing now) settings : StateM SimulatedClock Outcome).run d

namespace SimulatedClock

/-! ### Calls on an open connection -/

/-- A step that an exchange takes with a simulated device. -/
def Takes (now : Instant) (d d' : SimulatedClock) (step : Step) : Prop :=
  (Runner.state SimulatedClock).Takes SimulatedClock.transport (standing now) d d' step

/-- The steps that an exchange takes with a simulated device, one after the other. -/
def Plays (now : Instant) (d : SimulatedClock) (steps : List Step) (d' : SimulatedClock) : Prop :=
  (Runner.state SimulatedClock).Plays SimulatedClock.transport (standing now) d steps d'

/-- An open device in a layout that an exchange can use. -/
structure Ready (d : SimulatedClock) : Prop where
  connected : d.connected = true
  inside : d.layout.readAddress ≤ 65533
  enough : 3 ≤ d.layout.readCount
  apart : d.layout.writeMsEnabled = true → d.layout.MillisecondsApart
  shows : d.clock.milliseconds ≤ 999

/-- None of the faults is switched on. -/
structure Faultless (d : SimulatedClock) : Prop where
  online : d.offline = false
  long : d.shortReads = false
  reads : d.failReadsFrom = none
  writes : d.failWritesTo = none

/-- How many registers a read of so many is answered with. -/
def granted (d : SimulatedClock) (quantity : UInt16) : Nat :=
  if d.shortReads then quantity.toNat - 1 else quantity.toNat

section
variable {now : Instant} {d d' : SimulatedClock} {layout : RegisterMap} {clock time : DeviceTime}

theorem read_connected (connected : d.connected = true) (address quantity : UInt16) :
    d.read address quantity =
      (if d.readFails d.reads then .error (.fieldbus .simulatedReadFailure)
        else .ok (d.found address (d.granted quantity)), { d with reads := d.reads + 1 }) := by
  rw [read, if_pos connected]
  split <;> rfl

theorem write_connected (connected : d.connected = true) (address : UInt16) (values : List UInt16) :
    d.write address values =
      if d.failWritesTo = some address then
        (.error (.fieldbus .simulatedWriteRefusal), { d with writes := d.writes ++ [⟨address, values⟩] })
      else (.ok (), { d with
        writes := d.writes ++ [⟨address, values⟩]
        clock := putRegisters d.layout d.clock address values }) := by
  rw [write, if_pos connected]

/-- A reading is counted and changes nothing else. What it shows is the clock. -/
theorem takes_reading {answer : Except Fault (List UInt16)} (taken : Takes now d d' (.reading d.layout answer))
    (ready : d.Ready) :
    d' = { d with reads := d.reads + 1 } ∧ ∀ time, clockShown answer = .ok time ↔
      d.readFails d.reads = false ∧ 3 ≤ d.granted d.layout.readCount ∧ time = d.clock := by
  have taken : d.read d.layout.readAddress d.layout.readCount = (answer, d') := taken
  rw [read_connected ready.connected] at taken
  obtain ⟨rfl, rfl⟩ := Prod.mk.inj taken
  refine ⟨rfl, fun time => ?_⟩
  split
  · rename_i fails
    simp [clockShown, fails]
  · rename_i works
    rw [Bool.eq_false_iff.mpr works, clockShown_ok, ofRegisters_found_eq_ok_iff ready.inside ready.shows]
    exact (and_iff_right rfl).symm

theorem Faultless.shown {answer : Except Fault (List UInt16)} (faultless : d.Faultless) (ready : d.Ready)
    (taken : Takes now d d' (.reading d.layout answer)) : clockShown answer = .ok d.clock := by
  have answered : d.readFails d.reads = false := by
    rw [readFails, faultless.reads]
    rfl
  have whole : d.granted d.layout.readCount = d.layout.readCount.toNat := by
    rw [granted, faultless.long]
    rfl
  refine ((takes_reading taken ready).2 d.clock).mpr ⟨answered, ?_, rfl⟩
  rw [whole]
  exact UInt16.le_iff_toNat_le.mp ready.enough

theorem takes_write {address : UInt16} {values : List UInt16} {answer : Except Fault Unit}
    (taken : Takes now d d' (.write address values answer)) (connected : d.connected = true) :
    (d.failWritesTo = some address ∧ (∃ cause, answer = .error cause) ∧
        d' = { d with writes := d.writes ++ [⟨address, values⟩] }) ∨
      (d.failWritesTo ≠ some address ∧ answer = .ok () ∧
        d' = { d with
          writes := d.writes ++ [⟨address, values⟩]
          clock := putRegisters d.layout d.clock address values }) := by
  have taken : d.write address values = (answer, d') := taken
  rw [write_connected connected] at taken
  split at taken
  · rename_i fails
    obtain ⟨rfl, rfl⟩ := Prod.mk.inj taken
    exact .inl ⟨fails, ⟨_, rfl⟩, rfl⟩
  · rename_i works
    obtain ⟨rfl, rfl⟩ := Prod.mk.inj taken
    exact .inr ⟨works, rfl, rfl⟩

/-! ### Writing the clock -/

/-- The milliseconds that are left once a time is written. -/
def millisecondsLeft (layout : RegisterMap) (clock time : DeviceTime) : UInt16 :=
  if layout.writeMsEnabled then time.milliseconds else clock.milliseconds

/-- The clock that a writing leaves, by what came of it. -/
inductive Leaves (layout : RegisterMap) (clock time : DeviceTime) : Except Failure Unit → DeviceTime → Prop
  | epochRefused (cause : Fault) :
      Leaves layout clock time (.error (.write ⟨layout.writeEpochAddress, layout.writeEpochCount⟩ cause)) clock
  | millisecondsRefused (cause : Fault) :
      Leaves layout clock time (.error (.write ⟨layout.writeMsAddress, 1⟩ cause)) ⟨time.seconds, clock.milliseconds⟩
  | written : Leaves layout clock time (.ok ()) ⟨time.seconds, millisecondsLeft layout clock time⟩

theorem putRegisters_milliseconds (on : layout.writeMsEnabled = true) (apart : layout.MillisecondsApart)
    (clock : DeviceTime) (valid : time.milliseconds ≤ 999) :
    putRegisters layout clock layout.writeMsAddress [time.milliseconds] =
      ⟨clock.seconds, millisecondsLeft layout clock time⟩ := by
  have kept : min time.milliseconds 999 = time.milliseconds := if_pos valid
  rw [(putRegisters_milliseconds_iff on).mpr apart, millisecondsLeft, if_pos on, kept]

/-- A writing changes the clock as it says, and goes through if no write fails. -/
theorem plays_writing {writes : List Step} {result : Except Failure Unit} (played : Plays now d writes d')
    (written : Writing d.layout time writes result) (ready : d.Ready) (valid : time.milliseconds ≤ 999) :
    ∃ record clock, d' = { d with writes := record, clock := clock } ∧ Leaves d.layout d.clock time result clock ∧
      (d.failWritesTo = none → result = .ok ()) := by
  have connected := ready.connected
  cases written with
  | epochRefused cause =>
    obtain ⟨s, taken, rfl⟩ := played
    obtain ⟨fails, -, rfl⟩ | ⟨-, ok, -⟩ := takes_write taken connected
    · refine ⟨_, _, rfl, .epochRefused cause, ?_⟩
      intro works
      rw [works] at fails
      cases fails
    · cases ok
  | epochAlone off =>
    obtain ⟨s, taken, rfl⟩ := played
    obtain ⟨-, ⟨cause, refused⟩, -⟩ | ⟨-, -, rfl⟩ := takes_write taken connected
    · cases refused
    have kept : millisecondsLeft d.layout d.clock time = d.clock.milliseconds := by simp [millisecondsLeft, off]
    refine ⟨_, _, rfl, ?_, fun _ => rfl⟩
    rw [putRegisters_epoch, ← kept]
    exact .written
  | millisecondsRefused on cause =>
    obtain ⟨s, taken, s', takenMs, rfl⟩ := played
    obtain ⟨-, ⟨cause, refused⟩, -⟩ | ⟨-, -, rfl⟩ := takes_write taken connected
    · cases refused
    obtain ⟨fails, -, rfl⟩ | ⟨-, ok, -⟩ := takes_write takenMs connected
    · rw [putRegisters_epoch]
      refine ⟨_, _, rfl, .millisecondsRefused cause, ?_⟩
      intro works
      rw [works] at fails
      cases fails
    · cases ok
  | both on =>
    obtain ⟨s, taken, s', takenMs, rfl⟩ := played
    obtain ⟨-, ⟨cause, refused⟩, -⟩ | ⟨-, -, rfl⟩ := takes_write taken connected
    · cases refused
    obtain ⟨-, ⟨cause, refused⟩, -⟩ | ⟨-, -, rfl⟩ := takes_write takenMs connected
    · cases refused
    refine ⟨_, _, rfl, ?_, fun _ => rfl⟩
    rw [putRegisters_epoch, putRegisters_milliseconds on (ready.apart on) _ valid]
    exact .written

theorem Leaves.milliseconds_le {left : DeviceTime} {result : Except Failure Unit} (leaves : Leaves layout clock time result left)
    (shows : clock.milliseconds ≤ 999) (valid : time.milliseconds ≤ 999) : left.milliseconds ≤ 999 := by
  cases leaves with
  | epochRefused cause => exact shows
  | millisecondsRefused cause => exact shows
  | written =>
    simp only [millisecondsLeft]
    split
    · exact valid
    · exact shows

/-! ### Phases -/

/-- Reading and writing: the clock was read as it was, and the writing changed it. -/
theorem plays_told {answer : Except Fault (List UInt16)} {before : DeviceTime} {moment : Instant} {writes : List Step}
    {result : Except Failure Unit} (shown : clockShown answer = .ok before)
    (written : Writing d.layout (.ofInstant moment) writes result) (ready : d.Ready)
    (played : Plays now d ([.reading d.layout answer, .now moment] ++ writes) d') :
    before = d.clock ∧ moment = now ∧ ∃ reads record clock,
      d' = { d with reads := reads, writes := record, clock := clock } ∧
        Leaves d.layout d.clock (.ofInstant now) result clock ∧ (d.failWritesTo = none → result = .ok ()) := by
  obtain ⟨s₁, ⟨s, taken, s₂, read, rfl⟩, played⟩ := Runner.plays_append.mp played
  obtain ⟨rfl, iff⟩ := takes_reading taken ready
  obtain ⟨rfl, rfl⟩ := Prod.mk.inj read
  have valid := DeviceTime.ofInstant_milliseconds_le now
  obtain ⟨record, clock, rfl, left, through⟩ := plays_writing played written { ready with } valid
  exact ⟨((iff before).mp shown).2.2, rfl, _, record, clock, rfl, left, through⟩

theorem plays_settling {settle : Duration} (played : Plays now d (settling settle) d') : d' = d := by
  unfold settling at played
  split at played
  · exact played.symm
  · obtain ⟨s, paused, rfl⟩ := played
    exact (Prod.mk.inj paused).2.symm

/-- The whole way to the reading back, which shows the clock as it is left. -/
theorem plays_back {answer back : Except Fault (List UInt16)} {before : DeviceTime} {moment : Instant} {writes : List Step}
    {settle : Duration} (shown : clockShown answer = .ok before)
    (written : Writing d.layout (.ofInstant moment) writes (.ok ())) (ready : d.Ready)
    (played : Plays now d
      ([.reading d.layout answer, .now moment] ++ writes ++ settling settle ++ [.reading d.layout back]) d') :
    before = d.clock ∧ moment = now ∧ ∃ reads record clock,
      d' = { d with reads := reads, writes := record, clock := clock } ∧
        Leaves d.layout d.clock (.ofInstant now) (.ok ()) clock ∧
        (∀ time, clockShown back = .ok time → time = clock) ∧ (d.Faultless → clockShown back = .ok clock) := by
  obtain ⟨s, played, back⟩ := Runner.plays_append.mp played
  obtain ⟨s', told, waited⟩ := Runner.plays_append.mp played
  obtain rfl := plays_settling waited
  obtain ⟨rfl, rfl, reads, record, clock, rfl, left, -⟩ := plays_told shown written ready told
  have shows := left.milliseconds_le ready.shows (DeviceTime.ofInstant_milliseconds_le moment)
  have ready' : Ready { d with reads := reads, writes := record, clock := clock } := { ready with shows }
  have taken := Runner.plays_singleton.mp back
  obtain ⟨rfl, iff⟩ := takes_reading taken ready'
  refine ⟨rfl, rfl, _, record, clock, rfl, left, fun time shownBack => ((iff time).mp shownBack).2.2, ?_⟩
  intro faultless
  have faultless' : Faultless { d with reads := reads, writes := record, clock := clock } := { faultless with }
  exact faultless'.shown ready' taken

end

/-! ### The whole exchange -/

/-- The failure of the write of the milliseconds. -/
def MillisecondsRefused (layout : RegisterMap) (failure : Failure) : Prop :=
  ∃ cause, failure = .write ⟨layout.writeMsAddress, 1⟩ cause

/-- What an exchange makes of a device, and what it reports of it. -/
structure Effect (layout : RegisterMap) (host : DeviceTime) (d : SimulatedClock) (outcome : Outcome) (d' : SimulatedClock) :
    Prop where
  written : outcome.isWritten = true → d'.clock = ⟨host.seconds, millisecondsLeft layout d.clock host⟩
  untouched : ∀ {before taken failure}, outcome = .failed before taken failure → ¬ MillisecondsRefused layout failure →
    d'.clock = d.clock
  halfWritten : ∀ {before taken failure}, outcome = .failed before taken failure → MillisecondsRefused layout failure →
    d'.clock = ⟨host.seconds, d.clock.milliseconds⟩
  before : ∀ time ∈ outcome.before, time = d.clock
  host : ∀ time ∈ outcome.host, time = host
  after : ∀ time ∈ outcome.after, time = d'.clock
  hungUp : d'.connected = false
  closes : d'.closes = d.closes + 1

section
variable {settings : Settings} {layout : RegisterMap} {now : Instant} {d d' : SimulatedClock} {clock time : DeviceTime}
  {outcome : Outcome} {failure : Failure}

/-- An exchange that ended before any writing leaves the clock as it was. -/
theorem effect_of_unread (reading : ¬ MillisecondsRefused layout failure) (kept : d'.clock = d.clock)
    (hungUp : d'.connected = false) (closes : d'.closes = d.closes + 1) :
    Effect layout time d (.failed none none failure) d' where
  written done := nomatch done
  untouched _ _ := kept
  halfWritten := by
    rintro _ _ _ ⟨⟩ milliseconds
    exact absurd milliseconds reading
  before _ named := nomatch named
  host _ named := nomatch named
  after _ named := nomatch named
  hungUp := hungUp
  closes := closes

theorem not_millisecondsRefused (valid : settings.Valid) {address : UInt16} {cause : Fault} :
    ¬ MillisecondsRefused settings.registers (.write ⟨address, settings.registers.writeEpochCount⟩ cause) := by
  rintro ⟨cause', same⟩
  rw [valid.epochCount] at same
  cases same

/-- An exchange that ended in the writing leaves what its failure says. -/
theorem effect_of_unwritten (valid : settings.Valid)
    (left : Leaves settings.registers d.clock time (.error failure) clock) (shown : d'.clock = clock)
    (hungUp : d'.connected = false) (closes : d'.closes = d.closes + 1) :
    Effect settings.registers time d (.failed (some d.clock) (some time) failure) d' where
  written done := nomatch done
  untouched := by
    rintro _ _ _ ⟨⟩ epoch
    cases left with
    | epochRefused cause => exact shown
    | millisecondsRefused cause => exact absurd ⟨cause, rfl⟩ epoch
  halfWritten := by
    rintro _ _ _ ⟨⟩ milliseconds
    cases left with
    | epochRefused cause => exact absurd milliseconds (not_millisecondsRefused valid)
    | millisecondsRefused cause => exact shown
  before _ named := (Option.some.inj named).symm
  host _ named := (Option.some.inj named).symm
  after _ named := nomatch named
  hungUp := hungUp
  closes := closes

/-- An exchange that wrote the clock leaves it written. -/
theorem effect_of_written (left : Leaves layout d.clock time (.ok ()) clock) (shown : d'.clock = clock)
    (done : outcome.isWritten = true) (before : outcome.before = some d.clock) (host : outcome.host = some time)
    (after : ∀ t ∈ outcome.after, t = d'.clock) (hungUp : d'.connected = false) (closes : d'.closes = d.closes + 1) :
    Effect layout time d outcome d' where
  written _ := by
    cases left
    exact shown
  untouched := by
    rintro _ _ _ rfl
    cases done
  halfWritten := by
    rintro _ _ _ rfl
    cases done
  before _ named := Option.some.inj (named.symm.trans before)
  host _ named := Option.some.inj (named.symm.trans host)
  after := after
  hungUp := hungUp
  closes := closes

/-- What is said with an open device has its effect, and comes to its end if the device is faultless. -/
theorem effect_of_course (ready : d.Ready) (valid : settings.Valid) (built : d.layout = settings.registers)
    {steps : List Step} (course : Course settings steps outcome) (played : Plays now d steps d') :
    Effect settings.registers (.ofInstant now) d outcome d'.close ∧
      (d.Faultless → ∃ before host after, outcome = .synced before host after) := by
  cases course with
  | unread shown =>
    rw [← built] at played
    obtain ⟨s, taken, rfl⟩ := played
    obtain ⟨rfl, -⟩ := takes_reading taken ready
    constructor
    · refine effect_of_unread ?_ rfl rfl rfl
      rintro ⟨cause, ⟨⟩⟩
    · intro faultless
      rw [faultless.shown ready taken] at shown
      cases shown
  | unwritten shown written =>
    rw [← built] at played written
    obtain ⟨rfl, rfl, reads, record, clock, rfl, left, through⟩ := plays_told shown written ready played
    rw [built] at left
    refine ⟨effect_of_unwritten valid left rfl rfl rfl, ?_⟩
    intro faultless
    cases through faultless.writes
  | unverified shown written unshown =>
    rw [← built] at played written
    obtain ⟨rfl, rfl, reads, record, clock, rfl, left, -, readable⟩ := plays_back shown written ready played
    rw [built] at left
    refine ⟨effect_of_written left rfl rfl rfl rfl (fun _ named => nomatch named) rfl rfl, ?_⟩
    intro faultless
    rw [readable faultless] at unshown
    cases unshown
  | synced shown written shownBack =>
    rw [← built] at played written
    obtain ⟨rfl, rfl, reads, record, clock, rfl, left, back, -⟩ := plays_back shown written ready played
    rw [built] at left
    have after := back _ shownBack
    refine ⟨effect_of_written left rfl rfl rfl rfl ?_ rfl rfl, fun _ => ⟨_, _, _, rfl⟩⟩
    rintro _ ⟨⟩
    exact after

theorem effect_of_conversation (ready : Ready { d with connected := true }) (valid : settings.Valid)
    (built : d.layout = settings.registers) {steps : List Step} (talk : Conversation settings steps outcome)
    (played : Plays now d steps d') :
    Effect settings.registers (.ofInstant now) d outcome d' ∧
      (d.Faultless → ∃ before host after, outcome = .synced before host after) := by
  cases talk with
  | unconnected cause =>
    obtain ⟨s, refused, s', closed, rfl⟩ := played
    obtain ⟨-, rfl⟩ := Prod.mk.inj closed
    have refused : d.connect = (.error cause, s) := refused
    unfold connect at refused
    split at refused
    · rename_i offline
      obtain ⟨-, rfl⟩ := Prod.mk.inj refused
      constructor
      · refine effect_of_unread ?_ rfl rfl rfl
        rintro ⟨cause', ⟨⟩⟩
      · intro faultless
        rw [faultless.online] at offline
        cases offline
    · cases refused
  | connected course =>
    obtain ⟨s', ⟨s, opened, played⟩, closed⟩ := Runner.plays_append.mp played
    obtain ⟨-, rfl⟩ := Prod.mk.inj (Runner.plays_singleton.mp closed)
    have opened : d.connect = (.ok (), s) := opened
    unfold connect at opened
    split at opened
    · cases opened
    · obtain ⟨-, rfl⟩ := Prod.mk.inj opened
      obtain ⟨effect, through⟩ := effect_of_course ready valid built course played
      exact ⟨{ effect with }, fun faultless => through { faultless with }⟩

end

end SimulatedClock

open SimulatedClock in
/-- The effect of an exchange with a simulated device that is built on its layout, whatever faults are switched on and
    whatever requests came before. Without faults it always succeeds. -/
theorem exchangeWith_effect {settings : Settings} (valid : settings.defect? = none)
    (readable : settings.registers.readAddress ≤ 65533) (writable : settings.registers.writeEpochAddress ≤ 65534)
    {d : SimulatedClock} (built : d.layout = settings.registers) (shows : d.clock.milliseconds ≤ 999) (now : Instant) :
    Effect settings.registers (.ofInstant now) d (exchangeWith settings now d).1 (exchangeWith settings now d).2 ∧
      (d.Faultless → (exchangeWith settings now d).1 = .synced d.clock (.ofInstant now) (exchangeWith settings now d).2.clock) ∧
      (settings.registers.writeMsEnabled = true →
        ∀ time ∈ (exchangeWith settings now d).1.after, time = .ofInstant now) := by
  have valid := Settings.defect?_eq_none_iff.mp valid
  have apart : settings.registers.writeMsEnabled = true → settings.registers.MillisecondsApart := by
    intro on
    refine (RegisterMap.millisecondsApart_iff on valid.milliseconds).mpr ?_
    rintro ⟨last, -⟩
    rw [last] at writable
    exact absurd writable (by decide)
  have ready : Ready { d with connected := true } :=
    ⟨rfl, built ▸ readable, built ▸ valid.readCount.1, built ▸ apart, shows⟩
  obtain ⟨steps, outcome, d', talk, played⟩ := Runner.exists_conversation (Runner.state SimulatedClock)
    SimulatedClock.transport (standing now) d settings
  have run : exchangeWith settings now d = (outcome, d') := Runner.run_exchange talk played
  obtain ⟨effect, through⟩ := effect_of_conversation ready valid built talk played
  rw [run]
  refine ⟨effect, ?_, ?_⟩
  · intro faultless
    obtain ⟨before, host, after, rfl⟩ := through faultless
    rw [effect.before before rfl, effect.host host rfl, effect.after after rfl]
  · intro on time named
    have done : outcome.isWritten = true := by
      cases outcome with
      | failed before host failure => cases named
      | _ => rfl
    rw [effect.after time named, effect.written done, millisecondsLeft, if_pos on]

/-- Settings that read one register more than needed and write the milliseconds. -/
def thorough : Settings := { Settings.standard with registers := { readCount := 4, writeMsEnabled := true } }

/-- A device that answers with one register too few and takes no milliseconds. -/
def reluctant : SimulatedClock where
  layout := thorough.registers
  clock := ⟨5, 7⟩
  shortReads := true
  failWritesTo := some 292
  reads := 3
  closes := 2

theorem exchangeWith_reluctant :
    thorough.defect? = none ∧
      (exchangeWith thorough ⟨1736748928, 5000000, by decide, by decide⟩ reluctant).1 =
        .failed (some ⟨5, 7⟩) (some ⟨790064128, 5⟩) (.write ⟨292, 1⟩ (.fieldbus .simulatedWriteRefusal)) ∧
      (exchangeWith thorough ⟨1736748928, 5000000, by decide, by decide⟩ reluctant).2.clock = ⟨790064128, 7⟩ := by
  have valid : thorough.defect? = none := by decide
  have effect := (exchangeWith_effect valid (by decide) (by decide) (d := reluctant) rfl (by decide)
    ⟨1736748928, 5000000, by decide, by decide⟩).1
  exact ⟨valid, rfl, effect.halfWritten rfl ⟨_, rfl⟩⟩

end FieldClock
