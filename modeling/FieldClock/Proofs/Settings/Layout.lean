import FieldClock.Proofs.SimulatedClock.Exchange

/-!
# Layouts that are accepted

Which registers an exchange asks for, and whether they exist. Settings without a defect keep each count in its bounds and the
milliseconds off the seconds, but nothing looks whether a range ends before the addresses do: a layout that runs over the
last address is accepted, and its seconds can then share a register with its milliseconds.
-/

namespace FieldClock

/-- All registers of a range have an address. -/
def RegisterRange.InSpace (r : RegisterRange) : Prop := r.start.toNat + r.count.toNat ≤ 65536

/-- A call asks only for registers that have an address. -/
def Step.InSpace : Step → Prop
  | .read address quantity _ => address.toNat + quantity.toNat ≤ 65536
  | .write address values _ => address.toNat + values.length ≤ 65536
  | _ => True

/-- A call that an exchange makes for some device and some clock of the host. -/
def Settings.Makes (settings : Settings) (step : Step) : Prop :=
  ∃ (b : Behaviour) (outcome : Outcome) (steps : List Step),
    (exchange b.transport b.clock settings).run [] = (outcome, steps) ∧ step ∈ steps

/-! ### Calls of an exchange -/

section
variable {settings : Settings} {steps : List Step} {outcome : Outcome}

theorem Writing.inSpace {layout : RegisterMap} {time : DeviceTime} {result : Except Failure Unit}
    (written : Writing layout time steps result) (epoch : layout.writeEpochAddress.toNat + 2 ≤ 65536) :
    ∀ step ∈ steps, step.InSpace := by
  have first : ∀ answer, Step.InSpace (.write layout.writeEpochAddress time.epochRegisters answer) := fun _ => epoch
  have second : ∀ answer, Step.InSpace (.write layout.writeMsAddress [time.milliseconds] answer) :=
    fun _ => layout.writeMsAddress.toNat_lt
  cases written <;> simp [first, second]

theorem inSpace_of_settling {settle : Duration} : ∀ step ∈ settling settle, step.InSpace := by
  unfold settling
  split
  · exact fun _ none => nomatch none
  · intro step paused
    rw [List.mem_singleton.mp paused]
    exact True.intro

/-- The registers that an exchange asks for are those of its reading, of the seconds and of the milliseconds. -/
theorem Conversation.inSpace (talk : Conversation settings steps outcome)
    (reading : settings.registers.readAddress.toNat + settings.registers.readCount.toNat ≤ 65536)
    (epoch : settings.registers.writeEpochAddress.toNat + 2 ≤ 65536) : ∀ step ∈ steps, step.InSpace := by
  have opened : ∀ answer, Step.InSpace (.connect answer) := fun _ => True.intro
  have closed : Step.InSpace .close := True.intro
  have read : ∀ answer, Step.InSpace (.reading settings.registers answer) := fun _ => reading
  have timed : ∀ moment, Step.InSpace (.now moment) := fun _ => True.intro
  have asked : ∀ answer moment, ∀ step ∈ [Step.reading settings.registers answer, .now moment], step.InSpace := by
    simp [read, timed]
  have back : ∀ answer moment writes answer', Writing settings.registers (.ofInstant moment) writes (.ok ()) →
      ∀ step ∈ [Step.reading settings.registers answer, .now moment] ++ writes ++ settling settings.settleDelay ++
        [Step.reading settings.registers answer'], step.InSpace := by
    intro answer moment writes answer' written
    simp only [List.forall_mem_append, List.forall_mem_singleton]
    exact ⟨⟨⟨asked _ _, written.inSpace epoch⟩, inSpace_of_settling⟩, read _⟩
  cases talk with
  | unconnected cause => simp [opened, closed]
  | connected course =>
    simp only [List.forall_mem_append, List.forall_mem_singleton, opened, closed, true_and, and_true]
    cases course with
    | unread shown => simp [read]
    | unwritten shown written => exact List.forall_mem_append.mpr ⟨asked _ _, written.inSpace epoch⟩
    | unverified shown written unshown => exact back _ _ _ _ written
    | synced shown written shownBack => exact back _ _ _ _ written

/-- What is said in a conversation with answers that a device can give is what an exchange makes. -/
theorem Conversation.makes (talk : Conversation settings steps outcome) {b : Behaviour} (given : b.Gives [] steps) :
    ∀ step ∈ steps, settings.Makes step :=
  fun _ said => ⟨b, outcome, steps, talk.run given, said⟩

end

/-- A device that shows a clock but does not let it be set, with the time of the host. -/
def unsettable (now : Instant) : Behaviour where
  connect _ := .ok ()
  read _ _ _ := .ok [0, 0, 0]
  write _ _ _ := .error (.inputOutput "")
  isConnected _ := true
  now _ := now

/-- Every exchange reads the clock and writes the seconds, if the device lets it come to that. -/
theorem Settings.makes_requests (settings : Settings) (now : Instant) :
    settings.Makes (.reading settings.registers (.ok [0, 0, 0])) ∧
      settings.Makes (.write settings.registers.writeEpochAddress (DeviceTime.ofInstant now).epochRegisters
        (.error (.inputOutput ""))) := by
  have shown : clockShown (.ok [0, 0, 0]) = .ok default := rfl
  have refused : Writing settings.registers (.ofInstant now) _ _ := .epochRefused (.inputOutput "")
  have made := (Conversation.connected (.unwritten shown refused)).makes (b := unsettable now) (by
    simp [Behaviour.Gives, Behaviour.Answers, unsettable, Step.reading])
  exact ⟨made _ (by simp), made _ (by simp)⟩

/-! ### Accepted layouts -/

/-- Of settings without a defect: an exchange asks only for registers that exist just if its two ranges end with the
    addresses or before, and writing the milliseconds sets nothing else just if the seconds do not begin at the last address
    with the milliseconds at the first. -/
theorem layout_of_accepted {settings : Settings} (valid : settings.defect? = none) :
    ((∀ step, settings.Makes step → step.InSpace) ↔
        settings.registers.readRange.InSpace ∧ settings.registers.writeRange.InSpace) ∧
      (settings.registers.writeMsEnabled = true →
        ((∀ clock value,
            SimulatedClock.putRegisters settings.registers clock settings.registers.writeMsAddress [value] =
              { clock with milliseconds := min value 999 }) ↔
          ¬ (settings.registers.writeEpochAddress = 65535 ∧ settings.registers.writeMsAddress = 0))) := by
  have valid := Settings.defect?_eq_none_iff.mp valid
  have two : settings.registers.writeEpochCount.toNat = 2 := congrArg UInt16.toNat valid.epochCount
  refine ⟨⟨?_, ?_⟩, ?_⟩
  · intro inside
    obtain ⟨reading, epoch⟩ := settings.makes_requests ⟨0, 0, by decide, by decide⟩
    have epoch : settings.registers.writeEpochAddress.toNat + 2 ≤ 65536 := inside _ epoch
    exact ⟨inside _ reading, by rwa [RegisterMap.writeRange, RegisterRange.InSpace, two]⟩
  · rintro ⟨reading, epoch⟩ step ⟨b, outcome, steps, run, made⟩
    rw [RegisterMap.writeRange, RegisterRange.InSpace, two] at epoch
    obtain ⟨talk, -⟩ := Behaviour.conversation_of_run run
    exact talk.inSpace reading epoch step made
  · intro on
    rw [SimulatedClock.putRegisters_milliseconds_iff on]
    exact RegisterMap.millisecondsApart_iff on valid.milliseconds

/-- Settings whose ranges end with the addresses. -/
def fitting : Settings := { Settings.standard with
  registers := { readAddress := 65533, writeEpochAddress := 65534, writeMsEnabled := true, writeMsAddress := 0 } }

theorem layout_of_fitting :
    fitting.defect? = none ∧ (∀ step, fitting.Makes step → step.InSpace) ∧
      ∀ clock value, SimulatedClock.putRegisters fitting.registers clock 0 [value] =
        { clock with milliseconds := min value 999 } := by
  have valid : fitting.defect? = none := by decide
  obtain ⟨ranges, milliseconds⟩ := layout_of_accepted valid
  exact ⟨valid, ranges.mpr ⟨Nat.le_refl _, Nat.le_refl _⟩, (milliseconds rfl).mpr (by decide)⟩

/-- Settings whose seconds run over the last address, onto the milliseconds. -/
def overrunning : Settings := { Settings.standard with
  registers := { writeEpochAddress := 65535, writeMsEnabled := true, writeMsAddress := 0 } }

/-- Settings without a defect can ask for a register that does not exist. An exchange then overwrites the seconds that it has
    just written, and reports success. -/
theorem overrunning_accepted :
    overrunning.defect? = none ∧ (∃ step, overrunning.Makes step ∧ ¬ step.InSpace) ∧
      (exchangeWith overrunning ⟨1736748928, 5000000, by decide, by decide⟩
          { layout := overrunning.registers, clock := ⟨0, 0⟩ }).1 =
        .synced ⟨0, 0⟩ ⟨790064128, 5⟩ ⟨790036485, 0⟩ := by
  obtain ⟨-, epoch⟩ := overrunning.makes_requests ⟨0, 0, by decide, by decide⟩
  have behind : ¬ overrunning.registers.writeEpochAddress.toNat + 2 ≤ 65536 := by decide
  exact ⟨by decide, ⟨_, epoch, behind⟩, rfl⟩

end FieldClock
