import FieldClock.Proofs.DeviceTime.Registers
import FieldClock.Proofs.Exchange.Conversation
import FieldClock.Proofs.Json
import FieldClock.Proofs.Report.Lines
import FieldClock.Report.Json

/-!
# The two forms of a report

A report as text and the same report as JSON tell the same times and the same offset, and the offset is what lies between the
two instants that they show.
-/

namespace FieldClock

open Text

/-! ### Tagged lines -/

/-- What stands in brackets at the front of a line. -/
def tag? (line : String) : Option String :=
  match line.toList with
  | '[' :: cs => if ']' ∈ cs then some (String.ofList (cs.takeWhile (· ≠ ']'))) else none
  | _ => none

theorem tag?_append {line tag : String} (front : tag? line = some tag) (rest : String) : tag? (line ++ rest) = some tag := by
  -- Both texts are the same up to the first bracket that closes.
  have before : ∀ inside behind : List Char, ']' ∉ inside → (inside ++ ']' :: behind).takeWhile (· ≠ ']') = inside := by
    intro inside behind plain
    rw [List.takeWhile_append_of_pos]
    · simp
    · rintro c listed
      refine decide_eq_true ?_
      rintro rfl
      exact plain listed
  unfold tag? at *
  rw [String.toList_append]
  split at front
  · rename_i cs written
    split at front
    · rename_i closed
      obtain ⟨inside, behind, rfl, plain⟩ := List.eq_append_cons_of_mem closed
      rw [written]
      simp only [List.cons_append, List.append_assoc, List.mem_append, List.mem_cons, true_or, or_true, if_true,
        before _ _ plain] at front ⊢
      exact front
    · cases front
  · cases front

/-- The lines with one of some tags. -/
def tagged (tags : List String) (written : List String) : List String :=
  written.filter fun line => (tag? line).any (· ∈ tags)

theorem tagged_append (tags first rest : List String) : tagged tags (first ++ rest) = tagged tags first ++ tagged tags rest :=
  List.filter_append _ _

theorem tagged_cons {line : String} (untagged : tag? line = none) (tags rest : List String) :
    tagged tags (line :: rest) = tagged tags rest := by
  simp [tagged, untagged]

theorem tagged_map {α : Type} {line : α → String} {own : String} (tag : ∀ a, tag? (line a) = some own) (tags : List String)
    (as : List α) : tagged tags (as.map line) = if own ∈ tags then as.map line else [] := by
  split
  · rename_i listed
    refine List.filter_eq_self.mpr fun written shown => ?_
    obtain ⟨a, -, rfl⟩ := List.mem_map.mp shown
    simp [tag, listed]
  · rename_i unlisted
    refine List.filter_eq_nil_iff.mpr fun written shown => ?_
    obtain ⟨a, -, rfl⟩ := List.mem_map.mp shown
    simp [tag, unlisted]

theorem tag?_entryLine {tag : String} (front : tag? ("[" ++ tag ++ "] ") = some tag) (source : String) (e : Entry) :
    tag? (e.line tag source) = some tag := by
  unfold Entry.line
  iterate 8 apply tag?_append
  exact front

theorem tag?_deltaLine (offset : Int) : tag? (deltaLine offset) = some "DELTA " := by
  unfold deltaLine
  iterate 2 apply tag?_append
  decide

/-- The tag of the line for a failure. -/
def Failure.tag : Failure → String
  | .verify _ => "WARN"
  | _ => "FAIL"

theorem tag?_faultLine (layout : RegisterMap) (failure : Failure) : tag? (faultLine layout failure) = some failure.tag := by
  cases failure with
  | connect cause =>
    have front : tag? "[FAIL] connect(): " = some "FAIL" := by decide
    exact tag?_append front _
  | read range cause =>
    have front : tag? "[FAIL] read_input_registers(" = some "FAIL" := by decide
    exact tag?_append (tag?_append (tag?_append front _) _) _
  | write range cause =>
    have front : tag? "[FAIL] write_registers(" = some "FAIL" := by decide
    exact tag?_append (tag?_append (tag?_append (tag?_append (tag?_append front _) _) _) _) _
  | verify cause =>
    have front : tag? "[WARN] read-back after write failed: " = some "WARN" := by decide
    exact tag?_append front _

namespace Report

@[simp] theorem tagged_textLines (tags : List String) (layout : RegisterMap) (r : Report) :
    tagged tags (r.textLines layout ++ [""]) = tagged tags (tellingLines layout r.outcome) := by
  have empty : tag? "" = none := by decide
  have heading : tag? ("=== Device " ++ r.target.text ++ " ===") = none := by
    unfold tag?
    rw [String.toList_append, String.toList_append]
    generalize r.target.text.toList = target
    rfl
  rw [textLines, List.cons_append, List.cons_append, tagged_cons empty, tagged_cons heading, tagged_append, tagged_cons empty]
  exact List.append_nil _

end Report

/-! ### Agreement -/

/-- What a report says of a device time, as JSON. -/
def Entry.json (e : Entry) : Json :=
  .object <| .cons "iso" (.text e.iso) <|
    .cons "epoch_seconds_2000" (.number e.seconds) <|
    .cons "milliseconds" (.number e.milliseconds) .nil

/-- The milliseconds from 1 January 1970 to an instant. -/
def Instant.totalMilliseconds (t : Instant) : Int := t.seconds * 1000 + t.subsecondMilliseconds

theorem Instant.totalMilliseconds_eq {t u : Instant} (same : t.iso = u.iso) : t.totalMilliseconds = u.totalMilliseconds := by
  obtain ⟨seconds, milliseconds⟩ := Instant.iso_eq_iff.mp same
  rw [totalMilliseconds, seconds, milliseconds, totalMilliseconds]

/-- A device time stands in the lines and in the JSON of a report, or in neither. -/
structure Told (written : List String) (json : Json) (tag source name : String) (time : Option Entry) : Prop where
  line : tagged [tag] written = time.toList.map (Entry.line tag source)
  member : json.member? name = time.map Entry.json

/-- What a report as text and one as JSON tell, if they tell of one outcome. -/
structure Agrees (written : List String) (json : Json) (o : Outcome) : Prop where
  before : Told written json "BEFORE" "device" "before" (o.before.map Entry.of)
  host : Told written json "HOST  " "host->device" "host_time" (o.host.map Entry.of)
  after : Told written json "AFTER " "device" "after" (o.after.map Entry.of)
  offsetLine : tagged ["DELTA "] written = o.offset.toList.map deltaLine
  offsetMember : json.member? "offset_ms" = o.offset.map Json.number
  known : o.offset.isSome ↔ o.before.isSome ∧ o.host.isSome
  difference : ∀ offset before host, o.offset = some offset → o.before.map Entry.of = some before →
    o.host.map Entry.of = some host → ∀ t u : Instant, t.iso = before.iso → u.iso = host.iso →
      offset = t.totalMilliseconds - u.totalMilliseconds
  fault : tagged ["FAIL", "WARN"] written ≠ [] ↔ (json.member? "error").isSome

/-! ### Times -/

/-- The device times of an outcome, in the order in which they were taken. -/
def Outcome.times (o : Outcome) : List DeviceTime := o.before.toList ++ o.host.toList ++ o.after.toList

@[simp] theorem Outcome.times_synced (before host after : DeviceTime) :
    (Outcome.synced before host after).times = [before, host, after] := rfl

@[simp] theorem Outcome.times_unverified (before host : DeviceTime) (warning : Failure) :
    (Outcome.unverified before host warning).times = [before, host] := rfl

@[simp] theorem Outcome.times_failed (before host : Option DeviceTime) (failure : Failure) :
    (Outcome.failed before host failure).times = before.toList ++ host.toList := List.append_nil _

theorem clockShown_inRange {answer : Except Fault (List UInt16)} {time : DeviceTime} (shown : clockShown answer = .ok time) :
    time.milliseconds ≤ 999 := by
  cases answer with
  | error cause => cases shown
  | ok registers => exact (DeviceTime.ofRegisters_eq_ok_iff.mp (clockShown_ok.mp shown)).2

theorem Conversation.inRange {settings : Settings} {steps : List Step} {outcome : Outcome}
    (talk : Conversation settings steps outcome) : ∀ time ∈ outcome.times, time.milliseconds ≤ 999 := by
  have host := DeviceTime.ofInstant_milliseconds_le
  cases talk with
  | unconnected cause => simp
  | connected course =>
    cases course with
    | unread shown => simp
    | unwritten shown written => simp [clockShown_inRange shown, host]
    | unverified shown written unshown => simp [clockShown_inRange shown, host]
    | synced shown written shownBack => simp [clockShown_inRange shown, host, clockShown_inRange shownBack]

/-- The instant of a time in range is as far from another as its milliseconds tell. -/
theorem DeviceTime.totalMilliseconds_toInstant {d : DeviceTime} (inRange : d.milliseconds ≤ 999) :
    d.toInstant.totalMilliseconds = deviceEpoch * 1000 + d.totalMilliseconds := by
  have small : d.milliseconds.toNat ≤ 999 := UInt16.le_iff_toNat_le.mp inRange
  have cut : min d.milliseconds.toNat 999 * 1000000 / 1000000 = d.milliseconds.toNat := by omega
  show (deviceEpoch + d.seconds.toNat) * 1000 + ((min d.milliseconds.toNat 999 * 1000000 / 1000000 : Nat) : Int) = _
  rw [cut, totalMilliseconds]
  omega

namespace Report

@[simp] theorem tagged_telling (tags : List String) (layout : RegisterMap) (o : Outcome) :
    tagged tags (tellingLines layout o) =
      (if "BEFORE" ∈ tags then (o.before.map Entry.of).toList.map (Entry.line "BEFORE" "device") else []) ++
      (if "HOST  " ∈ tags then (o.host.map Entry.of).toList.map (Entry.line "HOST  " "host->device") else []) ++
      (if "DELTA " ∈ tags then o.offset.toList.map deltaLine else []) ++
      (if "AFTER " ∈ tags then (o.after.map Entry.of).toList.map (Entry.line "AFTER " "device") else []) ++
      tagged tags (o.failure.toList.map (faultLine layout)) := by
  have before := tagged_map (tag?_entryLine (show tag? ("[" ++ "BEFORE" ++ "] ") = _ by decide) "device")
  have host := tagged_map (tag?_entryLine (show tag? ("[" ++ "HOST  " ++ "] ") = _ by decide) "host->device")
  have after := tagged_map (tag?_entryLine (show tag? ("[" ++ "AFTER " ++ "] ") = _ by decide) "device")
  simp only [tellingLines, tagged_append, before, host, after, tagged_map tag?_deltaLine]

@[simp] theorem tagged_faults_nil {tags : List String} (fail : "FAIL" ∉ tags) (warn : "WARN" ∉ tags) (layout : RegisterMap)
    (failure : Option Failure) : tagged tags (failure.toList.map (faultLine layout)) = [] := by
  refine List.filter_eq_nil_iff.mpr fun written shown => ?_
  obtain ⟨failure, -, rfl⟩ := List.mem_map.mp shown
  cases failure <;> simp [tag?_faultLine, Failure.tag, fail, warn]

@[simp] theorem tagged_faults_self {tags : List String} (fail : "FAIL" ∈ tags) (warn : "WARN" ∈ tags) (layout : RegisterMap)
    (failure : Option Failure) :
    tagged tags (failure.toList.map (faultLine layout)) = failure.toList.map (faultLine layout) := by
  refine List.filter_eq_self.mpr fun written shown => ?_
  obtain ⟨failure, -, rfl⟩ := List.mem_map.mp shown
  cases failure <;> simp [tag?_faultLine, Failure.tag, fail, warn]

theorem told {written : List String} {json : Json} {tag source name : String} {time : Option DeviceTime}
    (line : tagged [tag] written = (time.map Entry.of).toList.map (Entry.line tag source))
    (member : json.member? name = time.map DeviceTime.reportJson) : Told written json tag source name (time.map Entry.of) where
  line := line
  member := member.trans (Option.map_map Entry.json Entry.of time).symm

theorem offset_eq {o : Outcome} (inRange : ∀ time ∈ o.times, time.milliseconds ≤ 999) {offset : Int} {before host : Entry}
    (known : o.offset = some offset) (first : o.before.map Entry.of = some before) (second : o.host.map Entry.of = some host)
    {t u : Instant} (atFirst : t.iso = before.iso) (atSecond : u.iso = host.iso) :
    offset = t.totalMilliseconds - u.totalMilliseconds := by
  obtain ⟨b, wasBefore, rfl⟩ := Option.map_eq_some_iff.mp first
  obtain ⟨h, wasHost, rfl⟩ := Option.map_eq_some_iff.mp second
  have firstInRange : b.milliseconds ≤ 999 := inRange b (by simp [Outcome.times, wasBefore])
  have secondInRange : h.milliseconds ≤ 999 := inRange h (by simp [Outcome.times, wasHost])
  have ahead : b.offset h = offset := by simpa [Outcome.offset, wasBefore, wasHost] using known
  rw [Instant.totalMilliseconds_eq atFirst, Instant.totalMilliseconds_eq atSecond, ← ahead, DeviceTime.offset]
  have firstShown := DeviceTime.totalMilliseconds_toInstant firstInRange
  have secondShown := DeviceTime.totalMilliseconds_toInstant secondInRange
  show _ = b.toInstant.totalMilliseconds - h.toInstant.totalMilliseconds
  omega

theorem agrees {o : Outcome} (inRange : ∀ time ∈ o.times, time.milliseconds ≤ 999) (layout : RegisterMap) (target : Target) :
    Agrees (textLines layout ⟨target, o⟩ ++ [""]) (Report.mk target o).json o where
  before := told (by simp) (by simp [json])
  host := told (by simp) (by simp [json])
  after := told (by simp) (by simp [json])
  offsetLine := by simp
  offsetMember := by simp [json]
  known := by
    unfold Outcome.offset
    cases o.before <;> cases o.host <;> simp
  difference _ _ _ known first second _ _ := offset_eq inRange known first second
  fault := by
    have line : tagged ["FAIL", "WARN"] (textLines layout ⟨target, o⟩ ++ [""]) = o.failure.toList.map (faultLine layout) := by
      simp
    have member : (Report.mk target o).json.member? "error" = o.failure.map Failure.json := by simp [json]
    rw [line, member]
    cases o.failure <;> simp

end Report

/-- In whatever way a device and the clock of the host answer, all times in the outcome of an exchange are in range, and its
    report tells the same as text and as JSON, if the host and the fault have no line breaks: the same times, one offset, which
    is what lies between the two instants shown, and a fault or none. -/
theorem exchange_told_alike (b : Behaviour) (settings : Settings) {outcome : Outcome} {steps : List Step}
    (ran : (exchange b.transport b.clock settings).run [] = (outcome, steps)) :
    (∀ time ∈ outcome.times, time.milliseconds ≤ 999) ∧
      ∀ (layout : RegisterMap) (target : Target) (json : Json), Unbroken target.host →
        (∀ failure, outcome.failure = some failure → Unbroken failure.cause.message) →
        json.render ++ "\n" = (Report.mk target outcome).jsonLine →
        Agrees (lines ((Report.mk target outcome).text layout)) json outcome := by
  have inRange := (Behaviour.conversation_of_run ran).1.inRange
  refine ⟨inRange, fun layout target json host faults written => ?_⟩
  have value : json = (Report.mk target outcome).json := Json.render_injective (String.append_left_inj "\n" |>.mp written)
  rw [value, Report.lines_text (show Unbroken (Report.mk target outcome).target.host from host) faults]
  exact Report.agrees inRange layout target

/-- A device whose clock can be read but not written. -/
def unwritable : Behaviour where
  connect _ := .ok ()
  read _ _ _ := .ok [12055, 27640, 250]
  write _ _ _ := .error (.inputOutput "timed out")
  isConnected _ := true
  now _ := ⟨1736748928, 5000000, by decide, by decide⟩

/-- The report of a device that could not be written. -/
def unwrittenReport : Report :=
  ⟨{ host := "192.168.7.2" },
    .failed (some ⟨790064120, 250⟩) (some ⟨790064128, 5⟩) (.write ⟨290, 2⟩ (.inputOutput "timed out"))⟩

theorem exchange_told_alike_unwritable :
    ((exchange unwritable.transport unwritable.clock .standard).run []).1 = unwrittenReport.outcome ∧
      tagged ["DELTA "] (lines (unwrittenReport.text {})) = ["[DELTA ] device was -7755 ms off host"] ∧
      unwrittenReport.json.member? "offset_ms" = some (.number (-7755)) := by
  have host : Unbroken unwrittenReport.target.host := by decide
  have fault : Unbroken (Fault.inputOutput "timed out").message := by decide
  have ran : ∃ steps, (exchange unwritable.transport unwritable.clock .standard).run [] = (unwrittenReport.outcome, steps) :=
    ⟨_, rfl⟩
  obtain ⟨steps, ran⟩ := ran
  have agrees := (exchange_told_alike unwritable .standard ran).2 {} unwrittenReport.target unwrittenReport.json host
    (fun _ failed => Option.some.inj failed ▸ fault) rfl
  have late : unwrittenReport.outcome.offset = some (-7755) := by decide
  exact ⟨congrArg Prod.fst ran, agrees.offsetLine.trans (by rw [late]; rfl), agrees.offsetMember.trans (by rw [late]; rfl)⟩

end FieldClock
