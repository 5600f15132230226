import FieldClock.Proofs.Exchange.Conversation
import FieldClock.Proofs.Likeness
import FieldClock.Proofs.Sink

/-!
# Output that fails

A run whose output takes no more text visits its devices like any other. What the output took is the first bytes of the whole
text, and only a heading that does not fit keeps a run from its devices.
-/

namespace FieldClock.Command

/-! ### Runs into buffers -/

/-- The surroundings of a run whose output is a buffer, into which texts go in pieces. -/
def Surroundings.intoBuffer {m : Type → Type} [Monad m] {κ : Type} (outside : Surroundings m κ) (cut : Cutting) :
    Surroundings (StateT Buffer m) κ where
  contents path := liftM (outside.contents path)
  isThere path := liftM (outside.isThere path)
  lookUp name := liftM (outside.lookUp name)
  clock := outside.clock.lift
  wire := outside.wire.lift
  print text b := pure (b.writeAll (cut.pieces text))
  complain text := liftM (outside.complain text)
  flush := pure (.ok ())

section
variable {m : Type → Type} [Monad m] {κ : Type}

/-- Visits every device of the settings and tells nobody. -/
def visitQuietly (world : Surroundings m κ) (settings : Settings) (simulated : Bool) : m (List (Visit (Device κ))) :=
  round (deviceTransport world.wire) world.clock settings (device world.clock settings simulated) (fun _ => pure ())
    settings.devices

/-- Synchronises up to passing the reports on, and gives the visits besides. -/
def synchroniseVisits (world : Surroundings m κ) (settings : Settings) (simulated : Bool) (format : Format) :
    m (Written × List (Visit (Device κ))) := do
  match ← writeHeading world.print settings format with
  | .error fault => return (.error fault, [])
  | .ok () =>
    let (visits, written) ← (visitAll world settings simulated format).run (.ok ())
    return (written, visits)

/-- Passing the reports on is the last thing in a run, and it is done only if all of them were written. -/
theorem synchronise_eq_bind [LawfulMonad m] (world : Surroundings m κ) (settings : Settings) (simulated : Bool)
    (format : Format) :
    synchronise world settings simulated format =
      synchroniseVisits world settings simulated format >>= fun (written, _) => passOn world.flush written := by
  rw [synchronise, synchroniseVisits, bind_assoc]
  congr 1
  funext headed
  rcases headed with fault | _
  · simp only [pure_bind, passOn]
  · simp only [bind_assoc, pure_bind]

/-- An output that holds nothing back passes reports on as they were written. -/
theorem passOn_pure (written : Written) : passOn (pure (.ok ()) : m Written) written = pure written := by
  rcases written with fault | _ <;> rfl

end

/-- What came of a run: the visits, what the output took and what the run left outside. -/
structure Printed (σ κ : Type) where
  written : Written
  bytes : List UInt8
  visits : List (Visit (Device κ))
  outside : σ

section
variable {σ κ : Type} (outside : Surroundings (StateM σ) κ) (cut : Cutting) (settings : Settings) (simulated : Bool)
  (format : Format)

/-- Synchronises with an output that has room for so many bytes. -/
def printInto (room : Option Nat) (s : σ) : Printed σ κ :=
  let (((written, visits), buffer), outside) :=
    ((synchroniseVisits (outside.intoBuffer cut) settings simulated format).run { room }).run s
  { written, bytes := buffer.bytes, visits, outside }

/-- The bytes of a heading. -/
def headingBytes : List UInt8 := (format.heading? settings).elim [] octets

/-- The texts of the reports of visits. -/
def reportTexts (visits : List (Visit (Device κ))) : List String :=
  visits.map fun done => format.report settings.registers done.report

/-- All bytes of a run with these visits. -/
def wholeText (visits : List (Visit (Device κ))) : List UInt8 :=
  headingBytes settings format ++ (reportTexts settings format visits).flatMap octets

end

/-! ### Visits are like quiet ones -/

/-- What was written and the buffer are run as one state, what is outside as another. -/
def printing (σ : Type) : Runner (StateT Written (StateT Buffer (StateM σ))) ((Written × Buffer) × σ) where
  run act state :=
    let (((a, written), buffer), s) := ((act.run state.1.1).run state.1.2).run state.2
    (a, (written, buffer), s)
  run_pure _ _ := rfl
  run_bind _ _ _ := rfl

/-- Actions that do the same outside and leave alone what is written. -/
def unwritten (σ : Type) : Likeness (StateT Written (StateT Buffer (StateM σ))) (StateM σ) where
  Alike x y := ∀ taken s, (printing σ).run x (taken, s) = ((y.run s).1, taken, (y.run s).2)
  alike_pure _ _ _ := rfl
  alike_bind := by
    intro α β x y f g first next taken s
    rw [(printing σ).run_bind, first]
    exact next _ taken _

section
variable {σ κ : Type} (outside : Surroundings (StateM σ) κ) (cut : Cutting) (settings : Settings) (simulated : Bool)
  (format : Format)

theorem wires_intoBuffer : (unwritten σ).Wires (outside.intoBuffer cut).wire.lift outside.wire where
  dial _ _ _ := rfl
  send _ _ _ _ := rfl
  receive _ _ _ _ := rfl
  hangUp _ _ _ := rfl

theorem clocks_intoBuffer : (unwritten σ).Clocks (outside.intoBuffer cut).clock.lift outside.clock where
  now _ _ := rfl
  pause _ _ _ := rfl

theorem run_writeReport (report : Report) (taken : Written × Buffer) (s : σ) :
    (printing σ).run (writeReport (outside.intoBuffer cut).print settings.registers format report) (taken, s) =
      ((), Buffer.resume cut taken (format.report settings.registers report), s) := by
  rcases taken with ⟨fault | _, buffer⟩ <;> rfl

/-- A round into a buffer is the quiet round, and the texts of its reports are what is written. -/
theorem run_round_intoBuffer (targets : List Target) (taken : Written × Buffer) (s : σ) :
    (printing σ).run
        (round (deviceTransport (outside.intoBuffer cut).wire.lift) (outside.intoBuffer cut).clock.lift settings
          (device (outside.intoBuffer cut).clock.lift settings simulated)
          (writeReport (outside.intoBuffer cut).print settings.registers format) targets) (taken, s) =
      let (visits, s') := (round (deviceTransport outside.wire) outside.clock settings (device outside.clock settings simulated)
        (fun _ => pure ()) targets).run s
      (visits, (reportTexts settings format visits).foldl (Buffer.resume cut) taken, s') := by
  have wires := wires_intoBuffer outside cut
  have clocks := clocks_intoBuffer outside cut
  induction targets generalizing taken s with
  | nil => rfl
  | cons target rest ih =>
    -- Building and visiting leave alone what is written, so the report is the one thing put behind it.
    rw [round, (printing σ).run_bind, clocks.device κ settings simulated target, (printing σ).run_bind,
      wires.deviceTransports.visit clocks, (printing σ).run_bind, run_writeReport, (printing σ).run_bind, ih]
    rfl

/-! ### The whole run -/

theorem run_writeHeading (room : Option Nat) (s : σ) :
    ((writeHeading (outside.intoBuffer cut).print settings format).run { room }).run s =
      (Buffer.filled room (headingBytes settings format), s) := by
  unfold writeHeading headingBytes
  rcases format.heading? settings with _ | text
  · simp only [Option.elim_none, Buffer.filled_nil]
    rfl
  · have written := Buffer.resume_filled cut room [] text
    rw [Buffer.filled_nil, List.nil_append] at written
    simp only [Option.elim_some, ← written]
    rfl

/-- A run takes all its text to the output, as far as there is room, and it is a quiet run or none at all. -/
theorem run_synchroniseVisits (room : Option Nat) (s : σ) :
    let quiet := (visitQuietly outside settings simulated).run s
    let taken := Buffer.filled room (wholeText settings format quiet.1)
    ((synchroniseVisits (outside.intoBuffer cut) settings simulated format).run { room }).run s =
      if (Buffer.filled room (headingBytes settings format)).1.isOk then (((taken.1, quiet.1), taken.2), quiet.2)
      else (((taken.1, []), taken.2), s) := by
  intro quiet taken
  rw [synchroniseVisits, StateT.run_bind, run_bind_of (run_writeHeading outside cut settings format room s)]
  rcases headed : Buffer.filled room (headingBytes settings format) with ⟨fault | _, buffer⟩
  -- A heading that does not fit has filled the room, so the reports would add nothing to it.
  · rw [show taken = (.error fault, buffer) from Buffer.filled_refused headed _]
    rfl
  · have visited : (printing σ).run (visitAll (outside.intoBuffer cut) settings simulated format) ((.ok (), buffer), s) =
        (quiet.1, taken, quiet.2) := by
      rw [visitAll, run_round_intoBuffer, ← headed]
      exact congrArg (fun taken => (quiet.1, taken, quiet.2)) (Buffer.foldl_resume_filled cut room _ _)
    exact congrArg (fun result => (((result.2.1.1, result.1), result.2.1.2), result.2.2)) visited

theorem printInto_none (s : σ) :
    let quiet := (visitQuietly outside settings simulated).run s
    printInto outside cut settings simulated format none s =
      { written := .ok (), bytes := wholeText settings format quiet.1, visits := quiet.1, outside := quiet.2 } := by
  rw [printInto, run_synchroniseVisits]
  rfl

variable {settings format} in
theorem printInto_some_of_le {n : Nat} (fits : (headingBytes settings format).length ≤ n) (s : σ) :
    let quiet := (visitQuietly outside settings simulated).run s
    printInto outside cut settings simulated format (some n) s =
      { written := if (wholeText settings format quiet.1).length ≤ n then .ok () else .error .bufferFull,
        bytes := (wholeText settings format quiet.1).take n, visits := quiet.1, outside := quiet.2 } := by
  rw [printInto, run_synchroniseVisits, Buffer.filled_of_fits fits]
  rfl

variable {settings format} in
theorem printInto_some_of_not_le {n : Nat} (short : ¬ (headingBytes settings format).length ≤ n) (s : σ) :
    let quiet := (visitQuietly outside settings simulated).run s
    printInto outside cut settings simulated format (some n) s =
      { written := if (wholeText settings format quiet.1).length ≤ n then .ok () else .error .bufferFull,
        bytes := (wholeText settings format quiet.1).take n, visits := [], outside := s } := by
  rw [printInto, run_synchroniseVisits, Buffer.filled_of_not_fits short]
  rfl

theorem run_synchronise (room : Option Nat) (s : σ) :
    let printed := printInto outside cut settings simulated format room s
    ((synchronise (outside.intoBuffer cut) settings simulated format).run { room }).run s =
      ((printed.written, { room, bytes := printed.bytes }), printed.outside) := by
  intro printed
  have forgets : ((synchronise (outside.intoBuffer cut) settings simulated format).run { room }).run s =
      (fun result => ((result.1.1.1, result.1.2), result.2))
        (((synchroniseVisits (outside.intoBuffer cut) settings simulated format).run { room }).run s) := by
    rw [synchronise_eq_bind, show (outside.intoBuffer cut).flush = pure (.ok ()) from rfl]
    simp only [passOn_pure]
    rfl
  have kept : (((synchroniseVisits (outside.intoBuffer cut) settings simulated format).run { room }).run s).1.2.room = room := by
    rw [run_synchroniseVisits]
    split <;> exact Buffer.filled_room _ _
  rw [forgets]
  exact congrArg (fun room => ((printed.written, Buffer.mk room printed.bytes), printed.outside)) kept

end

/-- An unlimited output takes the text of all visits and never fails. One that takes `n` bytes holds the first `n` of this text
    and fails just if there are more. With either, the visits and what they do outside are those of a quiet run; only if not even
    the heading fits there are none. -/
theorem synchronise_undisturbed {σ κ : Type} (outside : Surroundings (StateM σ) κ) (cut : Cutting) (settings : Settings)
    (simulated : Bool) (format : Format) (s : σ) :
    let into := fun room => printInto outside cut settings simulated format room s
    let whole := into none
    (∀ room, ((synchronise (outside.intoBuffer cut) settings simulated format).run { room }).run s =
      (((into room).written, { room, bytes := (into room).bytes }), (into room).outside)) ∧
    whole.written = .ok () ∧ whole.bytes = wholeText settings format whole.visits ∧
    (whole.visits, whole.outside) = (visitQuietly outside settings simulated).run s ∧
    ∀ n,
      (into (some n)).bytes = whole.bytes.take n ∧
      (into (some n)).written = (if whole.bytes.length ≤ n then .ok () else .error .bufferFull) ∧
      ((into (some n)).visits, (into (some n)).outside) =
        if (headingBytes settings format).length ≤ n then (whole.visits, whole.outside) else ([], s) := by
  intro into whole
  have unlimited : whole = _ := printInto_none outside cut settings simulated format s
  refine ⟨fun room => run_synchronise outside cut settings simulated format room s, ?_, ?_, ?_, ?_⟩
  · rw [unlimited]
  · rw [unlimited]
  · rw [unlimited]
    rfl
  · intro n
    by_cases fits : (headingBytes settings format).length ≤ n
    · have limited : into (some n) = _ := printInto_some_of_le outside cut simulated fits s
      rw [limited, unlimited, if_pos fits]
      exact ⟨rfl, rfl, rfl⟩
    · have limited : into (some n) = _ := printInto_some_of_not_le outside cut simulated fits s
      rw [limited, unlimited, if_neg fits]
      exact ⟨rfl, rfl, rfl⟩

end FieldClock.Command
