import FieldClock.Proofs.Instant.Iso
import FieldClock.Proofs.Text.Lines
import FieldClock.Report.Text

/-!
# The lines of a report

A report as text is one line for each thing it tells, and the tag of a line says what that is.
-/

namespace FieldClock

open Text

/-! ### Texts in one line -/

theorem unbroken_padded (width n : Nat) : '\n' ∉ Numeral.padded width n :=
  unbroken_of_isDigit (Numeral.isDigit_padded width n)

theorem unbroken_yearText (year : Int) : '\n' ∉ yearText year := by
  unfold yearText
  split
  · exact unbroken_padded _ _
  · intro broken
    rcases List.mem_cons.mp broken with sign | digit
    · split at sign <;> cases sign
    · exact unbroken_padded _ _ digit

theorem unbroken_iso (t : Instant) : Unbroken t.iso := by
  rw [Unbroken, Instant.iso_toList, List.mem_append, List.mem_append]
  rintro ((year | behind) | last)
  · exact unbroken_yearText _ year
  · obtain ⟨f, listed, broken⟩ := List.mem_flatMap.mp behind
    rcases List.mem_cons.mp broken with mark | digit
    · have mark : '\n' ∈ t.fields.map Field.mark := List.mem_map.mpr ⟨f, listed, mark.symm⟩
      rw [Instant.fields, isoFields_marks] at mark
      revert mark
      decide
    · exact unbroken_padded _ _ digit
  · cases List.mem_singleton.mp last

theorem unbroken_range (range : RegisterRange) : Unbroken range.text := by
  simp +decide [RegisterRange.text]

theorem unbroken_target {target : Target} (host : Unbroken target.host) : Unbroken target.text := by
  unfold Target.text Target.hostText
  split <;> simp +decide [host]

/-! ### Lines of a report -/

/-- What a report says of a device time: its instant and its two numbers. -/
structure Entry where
  iso : String
  seconds : Nat
  milliseconds : Nat

/-- What is said of a device time. -/
def Entry.of (d : DeviceTime) : Entry := ⟨d.toInstant.iso, d.seconds.toNat, d.milliseconds.toNat⟩

/-- The line for a device time, under a tag and with where the time comes from. -/
def Entry.line (tag source : String) (e : Entry) : String :=
  "[" ++ tag ++ "] " ++ e.iso ++ "  (" ++ source ++ ": " ++ toString e.seconds ++ "s + " ++ toString e.milliseconds ++ "ms)"

/-- The line for how far the device was off. -/
def deltaLine (offset : Int) : String := "[DELTA ] device was " ++ Numeral.signed offset ++ " ms off host"

/-- The line for a failure. -/
def faultLine (layout : RegisterMap) : Failure → String
  | .connect cause => "[FAIL] connect(): " ++ cause.message
  | .read range cause => "[FAIL] read_input_registers(" ++ range.text ++ "): " ++ cause.message
  | .write range cause =>
    "[FAIL] write_registers(" ++ range.text ++ ") " ++ Report.writePurpose layout range ++ ": " ++ cause.message
  | .verify cause => "[WARN] read-back after write failed: " ++ cause.message

namespace Report

/-- The lines of a report below its heading. -/
def tellingLines (layout : RegisterMap) (o : Outcome) : List String :=
  (o.before.map Entry.of).toList.map (Entry.line "BEFORE" "device") ++
    (o.host.map Entry.of).toList.map (Entry.line "HOST  " "host->device") ++
    o.offset.toList.map deltaLine ++
    (o.after.map Entry.of).toList.map (Entry.line "AFTER " "device") ++
    o.failure.toList.map (faultLine layout)

/-- The lines of a report as text. The first one is empty. -/
def textLines (layout : RegisterMap) (r : Report) : List String :=
  "" :: ("=== Device " ++ r.target.text ++ " ===") :: tellingLines layout r.outcome

theorem heading_eq (target telling : String) :
    "\n=== Device " ++ target ++ " ===\n" ++ telling =
      "" ++ "\n" ++ ("=== Device " ++ target ++ " ===" ++ "\n" ++ telling) := by
  have first : "\n=== Device " = "" ++ "\n" ++ "=== Device " := by decide
  have last : " ===\n" = " ===" ++ "\n" := by decide
  rw [first, last]
  simp only [String.append_assoc]

theorem timeLine_eq (tag source : String) (d : DeviceTime) :
    timeLine tag source d = (Entry.of d).line tag source ++ "\n" := by
  have last : ("ms)" : String) = "ms" ++ ")" := by decide
  have broken : (")\n" : String) = ")" ++ "\n" := by decide
  unfold timeLine Entry.line DeviceTime.text Entry.of
  generalize d.toInstant.iso = iso
  generalize d.seconds.toNat = seconds
  generalize d.milliseconds.toNat = milliseconds
  dsimp only
  generalize toString seconds = seconds
  generalize toString milliseconds = milliseconds
  simp only [last, broken, String.append_assoc]

theorem failureLine_eq (layout : RegisterMap) (failure : Failure) :
    failureLine layout failure = faultLine layout failure ++ "\n" := by
  cases failure <;> rfl

theorem offsetLine_eq (offset : Int) : offsetLine offset = deltaLine offset ++ "\n" := by
  have last : " ms off host\n" = " ms off host" ++ "\n" := by decide
  unfold offsetLine deltaLine
  generalize Numeral.signed offset = shown
  simp only [last, String.append_assoc]

theorem optional_eq {α : Type} {text line : α → String} (ends : ∀ a, text a = line a ++ "\n") (o : Option α) :
    optional text o = ended (o.toList.map line) := by
  cases o with
  | none => rfl
  | some a => simp [optional, ended, ends]

theorem endLine_eq (layout : RegisterMap) (outcome : Outcome) :
    endLine layout outcome = ended ((outcome.after.map Entry.of).toList.map (Entry.line "AFTER " "device") ++
      outcome.failure.toList.map (faultLine layout)) := by
  cases outcome <;>
    simp [endLine, Outcome.after, Outcome.failure, timeLine_eq, failureLine_eq, ended]

theorem text_eq (layout : RegisterMap) (r : Report) : r.text layout = ended (r.textLines layout) := by
  have times : ∀ tag source (time : Option DeviceTime),
      optional (timeLine tag source) time = ended ((time.map Entry.of).toList.map (Entry.line tag source)) := by
    intro tag source time
    rw [optional_eq (timeLine_eq tag source)]
    cases time <;> rfl
  unfold text
  rw [times, times, optional_eq offsetLine_eq, endLine_eq]
  refine Eq.trans ?_ (heading_eq r.target.text (ended (tellingLines layout r.outcome)))
  simp only [tellingLines, ended_append, String.append_assoc]

theorem unbroken_entryLine {tag source : String} (tagged : Unbroken tag) (sourced : Unbroken source) (d : DeviceTime) :
    Unbroken ((Entry.of d).line tag source) := by
  have iso := unbroken_iso d.toInstant
  unfold Entry.line Entry.of
  generalize d.toInstant.iso = iso at *
  simp +decide [tagged, sourced, iso]

theorem unbroken_deltaLine (offset : Int) : Unbroken (deltaLine offset) := by
  have shown := unbroken_signed offset
  unfold deltaLine
  generalize Numeral.signed offset = text at *
  simp +decide [shown]

/-- The line for a failure ends in the message of its fault. -/
theorem exists_faultLine (layout : RegisterMap) (failure : Failure) :
    ∃ told, Unbroken told ∧ faultLine layout failure = told ++ failure.cause.message := by
  cases failure with
  | connect cause => exact ⟨"[FAIL] connect(): ", by decide, rfl⟩
  | read range cause =>
    refine ⟨"[FAIL] read_input_registers(" ++ range.text ++ "): ", ?_, rfl⟩
    simp +decide [unbroken_range range]
  | write range cause =>
    refine ⟨"[FAIL] write_registers(" ++ range.text ++ ") " ++ writePurpose layout range ++ ": ", ?_, rfl⟩
    have purpose : Unbroken (writePurpose layout range) := by
      unfold writePurpose
      split <;> decide
    simp +decide [unbroken_range range, purpose]
  | verify cause => exact ⟨"[WARN] read-back after write failed: ", by decide, rfl⟩

theorem unbroken_faultLine (layout : RegisterMap) {failure : Failure} (cause : Unbroken failure.cause.message) :
    Unbroken (faultLine layout failure) := by
  obtain ⟨told, unbroken, whole⟩ := exists_faultLine layout failure
  rw [whole]
  exact unbroken_append.mpr ⟨unbroken, cause⟩

theorem unbroken_textLines {layout : RegisterMap} {r : Report} (host : Unbroken r.target.host)
    (faults : ∀ failure, r.outcome.failure = some failure → Unbroken failure.cause.message) :
    ∀ line ∈ r.textLines layout, Unbroken line := by
  intro line listed
  have heading : Unbroken ("=== Device " ++ r.target.text ++ " ===") := by
    have target := unbroken_target host
    generalize r.target.text = target at *
    simp +decide [target]
  rcases List.mem_cons.mp listed with rfl | listed
  · decide
  rcases List.mem_cons.mp listed with rfl | listed
  · exact heading
  simp only [tellingLines, List.mem_append, List.mem_map, Option.mem_toList, Option.map_eq_some_iff] at listed
  rcases listed with (((⟨_, ⟨d, _, rfl⟩, rfl⟩ | ⟨_, ⟨d, _, rfl⟩, rfl⟩) | ⟨offset, _, rfl⟩) | ⟨_, ⟨d, _, rfl⟩, rfl⟩) |
    ⟨failure, failed, rfl⟩
  · exact unbroken_entryLine (by decide) (by decide) d
  · exact unbroken_entryLine (by decide) (by decide) d
  · exact unbroken_deltaLine offset
  · exact unbroken_entryLine (by decide) (by decide) d
  · exact unbroken_faultLine layout (faults failure failed)

/-- The lines of a report stand in its text, if the host and the fault have no breaks of their own. -/
theorem lines_text {layout : RegisterMap} {r : Report} (host : Unbroken r.target.host)
    (faults : ∀ failure, r.outcome.failure = some failure → Unbroken failure.cause.message) :
    lines (r.text layout) = r.textLines layout ++ [""] := by
  rw [text_eq, lines_ended (unbroken_textLines host faults)]

end Report

end FieldClock
