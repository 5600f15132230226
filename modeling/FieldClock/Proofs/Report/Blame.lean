import FieldClock.Proofs.Report.Agreement
import FieldClock.Proofs.Settings.Validity

/-!
# What a failed write is blamed on

A report knows of a failed write only the register where it started, and tells by this register what the write was for. In a
layout without a defect no two writes of an exchange start at the same register, so it tells right.
-/

namespace FieldClock

/-! ### Writes of an exchange -/

/-- Whether a step is a write. -/
def Step.isWrite : Step → Bool
  | .write _ _ _ => true
  | _ => false

/-- The writes among steps. -/
def writesOf (steps : List Step) : List Step := steps.filter Step.isWrite

section
variable (layout : RegisterMap) (host : DeviceTime) (cause : Fault) (steps : List Step)

/-- The device refused the seconds, and nothing else was written. -/
def RefusedSeconds : Prop := writesOf steps = [.write layout.writeEpochAddress host.epochRegisters (.error cause)]

/-- The device took the seconds and refused the milliseconds. -/
def RefusedMilliseconds : Prop :=
  writesOf steps =
    [.write layout.writeEpochAddress host.epochRegisters (.ok ()),
      .write layout.writeMsAddress [host.milliseconds] (.error cause)]

end

/-- The lines of a report blame the write that a device refused: they name what it was for and the register where it starts. -/
structure Blames (written : List String) (layout : RegisterMap) (range : RegisterRange) (host : DeviceTime) (cause : Fault)
    (steps : List Step) (purpose : String) : Prop where
  line : tagged ["FAIL"] written =
    ["[FAIL] write_registers(" ++ toString range.start.toNat ++ ".." ++ toString range.last ++ ") " ++ purpose ++ ": " ++
      cause.message]
  refused : RefusedSeconds layout host cause steps ∨ RefusedMilliseconds layout host cause steps
  seconds : purpose = "epoch" ↔ RefusedSeconds layout host cause steps
  milliseconds : purpose = "ms" ↔ RefusedMilliseconds layout host cause steps
  start : ∃ values, (writesOf steps).getLast? = some (.write range.start values (.error cause))

section
variable {settings : Settings} {layout : RegisterMap} {host : DeviceTime} {cause : Fault} {steps writes : List Step}
  {range : RegisterRange} {outcome : Outcome}

theorem RefusedSeconds.not_milliseconds (seconds : RefusedSeconds layout host cause steps) :
    ¬ RefusedMilliseconds layout host cause steps := by
  intro milliseconds
  cases seconds.symm.trans milliseconds

/-- An exchange fails with a write just when one of its two writes was refused. -/
theorem Conversation.refused (talk : Conversation settings steps outcome)
    (failed : outcome.failure = some (.write range cause)) :
    ∃ host, outcome.host = some host ∧
      (RefusedSeconds settings.registers host cause steps ∧ range = settings.registers.writeRange ∨
        settings.registers.writeMsEnabled = true ∧ RefusedMilliseconds settings.registers host cause steps ∧
          range = ⟨settings.registers.writeMsAddress, 1⟩) := by
  cases talk with
  | unconnected cause => cases failed
  | connected course =>
    cases course with
    | unread shown => cases failed
    | unwritten shown written =>
      obtain rfl := Option.some.inj failed
      refine ⟨_, rfl, ?_⟩
      cases written with
      | epochRefused cause => exact .inl ⟨rfl, rfl⟩
      | millisecondsRefused on cause => exact .inr ⟨on, rfl, rfl⟩
    | unverified shown written unshown => cases failed
    | synced shown written shownBack => cases failed

/-- Without a defect the milliseconds do not start where the seconds do. -/
theorem Settings.Valid.starts_apart (valid : settings.Valid) (on : settings.registers.writeMsEnabled = true) :
    settings.registers.writeEpochAddress ≠ settings.registers.writeMsAddress := by
  rcases (RegisterMap.millisecondsOverlap_eq_false_iff on).mp valid.milliseconds with ⟨apart, -⟩ | ⟨last, first⟩
  · exact Ne.symm apart
  · rw [last, first]
    decide

/-- The one line of a report that tells of a failed write. -/
theorem tagged_failedWrite (failed : outcome.failure = some (.write range cause)) (layout : RegisterMap) (target : Target) :
    tagged ["FAIL"] (Report.textLines layout ⟨target, outcome⟩) = [faultLine layout (.write range cause)] := by
  have whole := Report.tagged_textLines ["FAIL"] layout ⟨target, outcome⟩
  have last : tagged ["FAIL"] [""] = [] := by decide
  have own : tagged ["FAIL"] [faultLine layout (.write range cause)] = [faultLine layout (.write range cause)] := by
    simp [tagged, tag?_faultLine, Failure.tag]
  rw [tagged_append, last, List.append_nil] at whole
  rw [whole]
  simp [failed, own]

end

/-- If an exchange under settings without a defect fails with a write, its report in their layout blames the write that the
    device refused, in whatever way device and host answered: it says "epoch" just if that was the seconds and "ms" just if it
    was the milliseconds, and gives the registers from the one on where it started. -/
theorem exchange_blames {settings : Settings} (valid : settings.defect? = none) (b : Behaviour) {outcome : Outcome}
    {steps : List Step} {range : RegisterRange} {cause : Fault}
    (ran : (exchange b.transport b.clock settings).run [] = (outcome, steps))
    (failed : outcome.failure = some (.write range cause)) (target : Target) :
    let report : Report := ⟨target, outcome⟩
    report.text settings.registers = Text.ended (report.textLines settings.registers) ∧
      ∃ host purpose, outcome.host = some host ∧
        Blames (report.textLines settings.registers) settings.registers range host cause steps purpose := by
  intro report
  have valid := Settings.defect?_eq_none_iff.mp valid
  obtain ⟨talk, -⟩ := Behaviour.conversation_of_run ran
  obtain ⟨host, taken, refused⟩ := talk.refused failed
  have line := tagged_failedWrite failed settings.registers target
  refine ⟨Report.text_eq settings.registers report, host, Report.writePurpose settings.registers range, taken, ?_⟩
  rcases refused with ⟨seconds, rfl⟩ | ⟨on, milliseconds, rfl⟩
  · have purpose : Report.writePurpose settings.registers settings.registers.writeRange = "epoch" :=
      if_neg fun ⟨same, on⟩ => valid.starts_apart on same
    have not_milliseconds := seconds.not_milliseconds
    exact {
      line
      refused := .inl seconds
      seconds := iff_of_true purpose seconds
      milliseconds := by simp [purpose, not_milliseconds]
      start := ⟨_, by rw [seconds]; rfl⟩ }
  · have purpose : Report.writePurpose settings.registers ⟨settings.registers.writeMsAddress, 1⟩ = "ms" :=
      if_pos ⟨rfl, on⟩
    have not_seconds : ¬ RefusedSeconds settings.registers host cause steps := fun seconds =>
      seconds.not_milliseconds milliseconds
    exact {
      line
      refused := .inr milliseconds
      seconds := by simp [purpose, not_seconds]
      milliseconds := iff_of_true purpose milliseconds
      start := ⟨_, by rw [milliseconds]; rfl⟩ }

/-- Settings that write the milliseconds right before the seconds, at the end of the addresses. -/
def touching : Settings := { Settings.standard with
  registers := { writeEpochAddress := 65534, writeMsEnabled := true, writeMsAddress := 65533 } }

/-- A device that takes the seconds but not the milliseconds. -/
def halfSettable : Behaviour where
  connect _ := .ok ()
  read _ _ _ := .ok [12055, 27640, 250]
  write _ address _ := if address = 65533 then .error (.inputOutput "timed out") else .ok ()
  isConnected _ := true
  now _ := ⟨1736748930, 7000000, by decide, by decide⟩

theorem exchange_blames_halfSettable :
    touching.defect? = none ∧
      ∃ outcome steps, (exchange halfSettable.transport halfSettable.clock touching).run [] = (outcome, steps) ∧
        tagged ["FAIL"] ((Report.mk { host := "plc" } outcome).textLines touching.registers) =
          ["[FAIL] write_registers(65533..65533) ms: I/O error: timed out"] := by
  have valid : touching.defect? = none := by decide
  obtain ⟨-, host, purpose, taken, blames⟩ := exchange_blames valid halfSettable rfl
    (show Outcome.failure _ = some (.write ⟨65533, 1⟩ (.inputOutput "timed out")) from rfl) { host := "plc" }
  have milliseconds : purpose = "ms" := blames.milliseconds.mpr (by cases taken; rfl)
  refine ⟨valid, _, _, rfl, ?_⟩
  rw [blames.line, milliseconds]
  rfl

end FieldClock
