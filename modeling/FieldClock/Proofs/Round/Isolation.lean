import FieldClock.Proofs.Exchange.Conversation
import FieldClock.Proofs.Likeness

/-!
# Isolation

A round keeps its devices apart. Each is built, called and reported before the next one is built, and what comes of it is what
would come of it alone, whatever the others answer.
-/

namespace FieldClock

/-! ### Rounds that are noted down -/

/-- What happens in a round. A device goes by the place of its target. -/
inductive Event where
  | built (place : Nat) (target : Target)
  | called (place : Nat) (step : Step)
  | told (report : Report)

/-- A device at a place in a round: how it behaves, and what was said to it. -/
structure Placed where
  place : Nat
  behaviour : Behaviour
  said : List Step := []

/-- The place of the next device, and what has happened so far. -/
structure Journal where
  next : Nat
  events : List Event := []

/-- Makes a call to a device and notes what is said. -/
def Placed.call {α : Type} (act : Behaviour → StateM (List Step) α) : StateT Placed (StateM Journal) α := fun d journal =>
  let (answer, said) := (act d.behaviour).run d.said
  ((answer, { d with said }),
    { journal with events := journal.events ++ (said.drop d.said.length).map (.called d.place) })

/-- The transport of a device at a place. -/
def Placed.transport : Transport (StateT Placed (StateM Journal)) where
  connect := call (·.transport.connect)
  read address quantity := call (·.transport.read address quantity)
  write address values := call (·.transport.write address values)
  close := call (·.transport.close)
  isConnected := call (·.transport.isConnected)

/-- Builds the device that is assigned to the next place. -/
def Journal.build (assign : Nat → Behaviour) (target : Target) : StateM Journal Placed := fun journal =>
  (⟨journal.next, assign journal.next, []⟩, ⟨journal.next + 1, journal.events ++ [.built journal.next target]⟩)

/-- Notes a report. -/
def Journal.tell (report : Report) : StateM Journal Unit := fun journal =>
  ((), { journal with events := journal.events ++ [.told report] })

/-- The round of targets with the devices that are assigned to places from `start` on: the visits and what happened. -/
def roundFrom (settings : Settings) (now : Instant) (assign : Nat → Behaviour) (start : Nat) (targets : List Target) :
    List (Visit Placed) × List Event :=
  let (visits, journal) :=
    (round Placed.transport (standing now) settings (Journal.build assign) Journal.tell targets).run ⟨start, []⟩
  (visits, journal.events)

/-- The exchange with one device alone: its outcome and what is said. -/
def alone (settings : Settings) (now : Instant) (b : Behaviour) : Outcome × List Step :=
  (exchange b.transport (standing now) settings).run []

/-- The connection that a device has after a call, if the call decides it. -/
def Event.connection? (place : Nat) : Event → Option Bool
  | .called found (.connect (.ok ())) => if found = place then some true else none
  | .called found .close => if found = place then some false else none
  | _ => none

/-- Whether the device at a place is connected after these events. -/
def connectedAfter (place : Nat) (events : List Event) : Bool :=
  events.foldl (fun connected event => (event.connection? place).getD connected) false

section
variable (settings : Settings) (now : Instant) (assign : Nat → Behaviour)

/-- The visit of a target at a place, as the device alone decides it. -/
def visitAt (entry : Target × Nat) : Visit Placed :=
  let (outcome, said) := alone settings now (assign entry.2)
  ⟨⟨entry.1, outcome⟩, ⟨entry.2, assign entry.2, said⟩⟩

/-- What happens in the visit of a target at a place. -/
def eventsAt (entry : Target × Nat) : List Event :=
  let (outcome, said) := alone settings now (assign entry.2)
  [.built entry.2 entry.1] ++ said.map (.called entry.2) ++ [.told ⟨entry.1, outcome⟩]

end

/-! ### One visit -/

/-- Actions on a placed device that are the same as on its behaviour, but for the journal. -/
def Likeness.placed (place : Nat) (b : Behaviour) : Likeness (StateT Placed (StateM Journal)) (StateM (List Step)) where
  Alike x y := ∀ said journal, ∃ new, (y.run said).2 = said ++ new ∧
    (x.run ⟨place, b, said⟩).run journal =
      (((y.run said).1, ⟨place, b, said ++ new⟩), { journal with events := journal.events ++ new.map (.called place) })
  alike_pure a said journal := ⟨[], (List.append_nil _).symm, by simp; rfl⟩
  alike_bind := by
    intro α β x y f g first next said journal
    obtain ⟨new, added, run⟩ := first said journal
    obtain ⟨more, further, run'⟩ := next (y.run said).1 (said ++ new)
      { journal with events := journal.events ++ new.map (.called place) }
    refine ⟨new ++ more, ?_, ?_⟩
    · rw [← List.append_assoc, ← further, ← added]
      rfl
    · rw [StateT.run_bind, StateT.run_bind, run]
      show ((f (y.run said).1).run ⟨place, b, said ++ new⟩).run _ = _
      rw [run', List.map_append, ← List.append_assoc, ← List.append_assoc, ← added]
      rfl

theorem alike_call {α : Type} (act : Behaviour → StateM (List Step) α) {place : Nat} {b : Behaviour}
    (adds : ∀ said, ∃ new, ((act b).run said).2 = said ++ new) : (Likeness.placed place b).Alike (Placed.call act) (act b) := by
  intro said journal
  obtain ⟨new, added⟩ := adds said
  refine ⟨new, added, ?_⟩
  have noted : ((act b).run said).2.drop said.length = new := by rw [added, List.drop_left]
  rw [← added, ← noted]
  rfl

theorem transports_placed (place : Nat) (b : Behaviour) :
    (Likeness.placed place b).Transports Placed.transport b.transport where
  connect := alike_call (·.transport.connect) fun _ => ⟨_, rfl⟩
  read address quantity := alike_call (·.transport.read address quantity) fun _ => ⟨_, rfl⟩
  write address values := alike_call (·.transport.write address values) fun _ => ⟨_, rfl⟩
  close := alike_call (·.transport.close) fun _ => ⟨_, rfl⟩
  isConnected := alike_call (·.transport.isConnected) fun said => ⟨[], (List.append_nil said).symm⟩

variable {settings : Settings} {now : Instant} {assign : Nat → Behaviour}

theorem run_visit (target : Target) (place : Nat) (journal : Journal) :
    (visit Placed.transport (standing now) settings target ⟨place, assign place, []⟩).run journal =
      (visitAt settings now assign (target, place),
        { journal with
          events := journal.events ++ (alone settings now (assign place)).2.map (.called place) }) := by
  have clocks : (Likeness.placed place (assign place)).Clocks (standing now : Clock (StateM Journal)).lift (standing now) :=
    ⟨Likeness.alike_pure _ _, fun _ => Likeness.alike_pure _ _⟩
  obtain ⟨said, added, run⟩ := (transports_placed place (assign place)).exchange clocks settings [] journal
  rw [List.nil_append] at added run
  obtain rfl := added
  rw [visit, StateT.run_bind, run]
  rfl

/-! ### The round -/

theorem run_round (targets : List Target) (place : Nat) (events : List Event) :
    (round Placed.transport (standing now) settings (Journal.build assign) Journal.tell targets).run ⟨place, events⟩ =
      ((targets.zipIdx place).map (visitAt settings now assign),
        ⟨place + targets.length, events ++ (targets.zipIdx place).flatMap (eventsAt settings now assign)⟩) := by
  induction targets generalizing place events with
  | nil => simp [round]; rfl
  | cons target rest ih =>
    have built : (Journal.build assign target).run ⟨place, events⟩ =
      (⟨place, assign place, []⟩, ⟨place + 1, events ++ [.built place target]⟩) := rfl
    have told (report : Report) (journal : Journal) :
        (Journal.tell report).run journal = ((), { journal with events := journal.events ++ [.told report] }) := rfl
    rw [round, run_bind_of built, run_bind_of (run_visit target place _), run_bind_of (told _ _), run_bind_of (ih _ _)]
    simp only [StateT.run_pure, List.zipIdx_cons, List.map_cons, List.flatMap_cons, List.length_cons, List.append_assoc,
      eventsAt, visitAt]
    rw [Nat.add_assoc, Nat.add_comm 1]
    rfl

/-! ### Connections -/

/-- Whether a step is a call to the device. -/
def Step.isCall : Step → Bool
  | .now _ => false
  | .pause _ => false
  | _ => true

-- The clock of the host leaves no trace with the device, so of a conversation it knows the calls alone.
theorem said_of_takes {b : Behaviour} {said after : List Step} {step : Step}
    (taken : (Runner.state _).Takes b.transport (standing now) said after step) : after = said ++ [step].filter Step.isCall := by
  cases step with
  | now instant =>
    obtain ⟨-, rfl⟩ := Prod.mk.inj taken
    exact (List.append_nil _).symm
  | pause d =>
    obtain ⟨-, rfl⟩ := Prod.mk.inj taken
    exact (List.append_nil _).symm
  | close =>
    obtain ⟨-, rfl⟩ := Prod.mk.inj taken
    rfl
  | _ =>
    obtain ⟨rfl, rfl⟩ := Prod.mk.inj taken
    rfl

theorem said_of_plays {b : Behaviour} {said after : List Step} {steps : List Step}
    (played : (Runner.state _).Plays b.transport (standing now) said steps after) :
    after = said ++ steps.filter Step.isCall := by
  induction steps generalizing said with
  | nil =>
    obtain rfl := played
    exact (List.append_nil _).symm
  | cons step rest ih =>
    obtain ⟨said', taken, played⟩ := played
    rw [ih played, said_of_takes taken, List.append_assoc, ← List.filter_append]
    rfl

/-- What is said to a device alone are the calls of a conversation. -/
theorem exists_alone (settings : Settings) (now : Instant) (b : Behaviour) :
    ∃ steps, Conversation settings steps (alone settings now b).1 ∧
      (alone settings now b).2 = steps.filter Step.isCall := by
  obtain ⟨steps, outcome, last, talk, played⟩ :=
    Runner.exists_conversation (Runner.state _) b.transport (standing now) [] settings
  have run : alone settings now b = (outcome, last) := Runner.run_exchange talk played
  rw [run]
  exact ⟨steps, talk, by rw [said_of_plays played, List.nil_append]⟩

theorem alone_closes (settings : Settings) (now : Instant) (b : Behaviour) :
    ∃ said, (alone settings now b).2 = said ++ [.close] := by
  obtain ⟨steps, talk, said⟩ := exists_alone settings now b
  generalize (alone settings now b).1 = outcome at talk
  cases talk with
  | unconnected cause => exact ⟨[.connect (.error cause)], said⟩
  | connected course =>
    rw [List.filter_append] at said
    exact ⟨_, said⟩

theorem connectedAfter_append (place : Nat) (first rest : List Event) (closed : connectedAfter place first = false) :
    connectedAfter place (first ++ rest) = connectedAfter place rest := by
  rw [connectedAfter, List.foldl_append]
  rw [connectedAfter] at closed
  rw [closed]
  rfl

theorem connectedAfter_untouched {place : Nat} {events : List Event} (untouched : ∀ e ∈ events, e.connection? place = none) :
    connectedAfter place events = false := by
  induction events with
  | nil => rfl
  | cons e rest ih =>
    have first : connectedAfter place [e] = false := by
      rw [connectedAfter, List.foldl_cons, untouched e List.mem_cons_self]
      rfl
    rw [← List.singleton_append, connectedAfter_append _ _ _ first]
    exact ih fun e' later => untouched e' (List.mem_cons_of_mem _ later)

theorem untouched_of_ne {place : Nat} {entry : Target × Nat} (other : place ≠ entry.2) :
    ∀ e ∈ eventsAt settings now assign entry, e.connection? place = none := by
  intro e happened
  simp only [eventsAt, List.mem_append, List.mem_singleton, List.mem_map] at happened
  rcases happened with (rfl | ⟨step, -, rfl⟩) | rfl
  · rfl
  · unfold Event.connection?
    split
    · rename_i found _ same
      obtain ⟨rfl, -⟩ := Event.called.inj same
      exact if_neg (Ne.symm other)
    · rename_i found same
      obtain ⟨rfl, -⟩ := Event.called.inj same
      exact if_neg (Ne.symm other)
    · rfl
  · rfl

theorem connectedAfter_eventsAt (place : Nat) (entry : Target × Nat) :
    connectedAfter place (eventsAt settings now assign entry) = false := by
  by_cases other : place ≠ entry.2
  · exact connectedAfter_untouched (untouched_of_ne other)
  obtain rfl := Decidable.of_not_not other
  obtain ⟨said, closes⟩ := alone_closes settings now (assign entry.2)
  simp only [eventsAt, closes, List.map_append, connectedAfter, List.foldl_append, List.map_cons, List.map_nil, List.foldl_cons,
    List.foldl_nil, Event.connection?, if_true, Option.getD_some, Option.getD_none]

/-- At any time in visits one after the other, at most one device is connected. -/
theorem connected_unique (entries : List (Target × Nat)) {count j k : Nat}
    (first : connectedAfter j ((entries.flatMap (eventsAt settings now assign)).take count) = true)
    (second : connectedAfter k ((entries.flatMap (eventsAt settings now assign)).take count) = true) : j = k := by
  induction entries generalizing count with
  | nil =>
    rw [List.flatMap_nil, List.take_nil] at first
    cases first
  | cons entry rest ih =>
    rw [List.flatMap_cons, List.take_append] at first second
    -- Within the first visit only its own device can be connected, and behind it that one is closed.
    by_cases within : count ≤ (eventsAt settings now assign entry).length
    · rw [Nat.sub_eq_zero_of_le within, List.take_zero, List.append_nil] at first second
      have only (place : Nat)
          (connected : connectedAfter place ((eventsAt settings now assign entry).take count) = true) : place = entry.2 := by
        refine Decidable.byContradiction fun other => ?_
        rw [connectedAfter_untouched fun e taken => untouched_of_ne other e (List.mem_of_mem_take taken)] at connected
        cases connected
      rw [only j first, only k second]
    · rw [List.take_of_length_le (Nat.le_of_not_le within), connectedAfter_append _ _ _ (connectedAfter_eventsAt _ _)]
        at first second
      exact ih first second

/-! ### Isolation -/

/-- In a round each target has its visit, in order, and each visit is what the device of its place makes of it alone. It is
    over, with its connection closed and its report told, before the next device is built, so at most one device is connected
    at any time; and a round of more targets is the round of the first ones and then that of the others. -/
theorem roundFrom_isolated (settings : Settings) (now : Instant) (assign : Nat → Behaviour) (start : Nat)
    (targets : List Target) :
    let visits := (roundFrom settings now assign start targets).1
    let events := (roundFrom settings now assign start targets).2
    visits = (targets.zipIdx start).map (visitAt settings now assign) ∧
      events = (targets.zipIdx start).flatMap (eventsAt settings now assign) ∧
      (∀ place, ∃ said, (alone settings now (assign place)).2 = said ++ [.close]) ∧
      (∀ count j k, connectedAfter j (events.take count) = true → connectedAfter k (events.take count) = true → j = k) ∧
      ∀ more, roundFrom settings now assign start (targets ++ more) =
        (visits ++ (roundFrom settings now assign (start + targets.length) more).1,
          events ++ (roundFrom settings now assign (start + targets.length) more).2) := by
  have run (start : Nat) (targets : List Target) : roundFrom settings now assign start targets =
      ((targets.zipIdx start).map (visitAt settings now assign),
        (targets.zipIdx start).flatMap (eventsAt settings now assign)) := by
    rw [roundFrom, run_round]
    rfl
  intro visits events
  have ordered : events = (targets.zipIdx start).flatMap (eventsAt settings now assign) := congrArg Prod.snd (run start targets)
  refine ⟨congrArg Prod.fst (run start targets), ordered, fun place => alone_closes _ _ _, ?_, ?_⟩
  · intro count j k first second
    rw [ordered] at first second
    exact connected_unique _ first second
  · intro more
    simp only [visits, events, run, List.zipIdx_append, List.map_append, List.flatMap_append]

end FieldClock
