import FieldClock.Exchange

/-!
# Conversations

What an exchange says and hears: its calls with their answers, in order, and the outcome they come to. A conversation is
told by rules of its own, one for each way an exchange can end, and the exchange on any transport is shown to hold exactly
the conversation that the answers of that transport lead to.
-/

namespace FieldClock

/-! ### Steps -/

/-- A call that an exchange makes, to the device or to the clock of the host, with its answer. -/
inductive Step where
  | connect (answer : Except Fault Unit)
  | read (address quantity : UInt16) (answer : Except Fault (List UInt16))
  | now (instant : Instant)
  | write (address : UInt16) (values : List UInt16) (answer : Except Fault Unit)
  | pause (d : Duration)
  | close

/-- The reading of the clock in a layout. -/
def Step.reading (layout : RegisterMap) (answer : Except Fault (List UInt16)) : Step :=
  .read layout.readAddress layout.readCount answer

/-- The device time that the answer to a reading shows, or why it shows none. -/
def clockShown : Except Fault (List UInt16) → Except Fault DeviceTime
  | .error cause => .error cause
  | .ok registers => (DeviceTime.ofRegisters registers).mapError .malformed

theorem clockShown_ok {registers : List UInt16} {time : DeviceTime} :
    clockShown (.ok registers) = .ok time ↔ DeviceTime.ofRegisters registers = .ok time := by
  rw [clockShown]
  rcases DeviceTime.ofRegisters registers with cause | found
  · exact iff_of_false (fun h => by cases h) (fun h => by cases h)
  · constructor <;> intro h <;> cases h <;> rfl

/-! ### Conversations -/

/-- The writing of a time: the seconds, then the milliseconds if the layout has them written. The first refusal ends it, with
    the range of the write that was refused. -/
inductive Writing (layout : RegisterMap) (time : DeviceTime) : List Step → Except Failure Unit → Prop
  | epochRefused (cause : Fault) :
      Writing layout time [.write layout.writeEpochAddress time.epochRegisters (.error cause)]
        (.error (.write ⟨layout.writeEpochAddress, layout.writeEpochCount⟩ cause))
  | epochAlone (off : layout.writeMsEnabled = false) :
      Writing layout time [.write layout.writeEpochAddress time.epochRegisters (.ok ())] (.ok ())
  | millisecondsRefused (on : layout.writeMsEnabled = true) (cause : Fault) :
      Writing layout time
        [.write layout.writeEpochAddress time.epochRegisters (.ok ()),
          .write layout.writeMsAddress [time.milliseconds] (.error cause)]
        (.error (.write ⟨layout.writeMsAddress, 1⟩ cause))
  | both (on : layout.writeMsEnabled = true) :
      Writing layout time
        [.write layout.writeEpochAddress time.epochRegisters (.ok ()),
          .write layout.writeMsAddress [time.milliseconds] (.ok ())]
        (.ok ())

/-- The wait between the writing and the reading back, if there is one. -/
def settling (settle : Duration) : List Step := if settle.isZero then [] else [.pause settle]

/-- What is said on an open connection. The time that is written is that of the one reading of the host's clock. -/
inductive Course (settings : Settings) : List Step → Outcome → Prop
  | unread {answer : Except Fault (List UInt16)} {cause : Fault} (shown : clockShown answer = .error cause) :
      Course settings [.reading settings.registers answer]
        (.failed none none (.read ⟨settings.registers.readAddress, settings.registers.readCount⟩ cause))
  | unwritten {answer : Except Fault (List UInt16)} {before : DeviceTime} {now : Instant} {writes : List Step}
      {failure : Failure} (shown : clockShown answer = .ok before)
      (written : Writing settings.registers (.ofInstant now) writes (.error failure)) :
      Course settings ([.reading settings.registers answer, .now now] ++ writes)
        (.failed (some before) (some (.ofInstant now)) failure)
  | unverified {answer back : Except Fault (List UInt16)} {before : DeviceTime} {now : Instant} {writes : List Step}
      {cause : Fault} (shown : clockShown answer = .ok before)
      (written : Writing settings.registers (.ofInstant now) writes (.ok ())) (unshown : clockShown back = .error cause) :
      Course settings
        ([.reading settings.registers answer, .now now] ++ writes ++ settling settings.settleDelay ++
          [.reading settings.registers back])
        (.unverified before (.ofInstant now) (.verify cause))
  | synced {answer back : Except Fault (List UInt16)} {before after : DeviceTime} {now : Instant} {writes : List Step}
      (shown : clockShown answer = .ok before) (written : Writing settings.registers (.ofInstant now) writes (.ok ()))
      (shownBack : clockShown back = .ok after) :
      Course settings
        ([.reading settings.registers answer, .now now] ++ writes ++ settling settings.settleDelay ++
          [.reading settings.registers back])
        (.synced before (.ofInstant now) after)

/-- What is said in a whole exchange. Connecting comes first and once, closing last and once, whatever lies between. -/
inductive Conversation (settings : Settings) : List Step → Outcome → Prop
  | unconnected (cause : Fault) :
      Conversation settings [.connect (.error cause), .close] (.failed none none (.connect cause))
  | connected {steps : List Step} {outcome : Outcome} (course : Course settings steps outcome) :
      Conversation settings ([.connect (.ok ())] ++ steps ++ [.close]) outcome

/-! ### Running -/

/-- A way to run the actions of a monad on states. -/
structure Runner (m : Type → Type) [Monad m] (σ : Type) where
  run : {α : Type} → m α → σ → α × σ
  run_pure : ∀ {α : Type} (a : α) (s : σ), run (pure a) s = (a, s)
  run_bind : ∀ {α β : Type} (act : m α) (next : α → m β) (s : σ),
    run (act >>= next) s = run (next (run act s).1) (run act s).2

namespace Runner

/-- The actions on a state are run as they are. -/
def state (σ : Type) : Runner (StateM σ) σ where
  run act s := act.run s
  run_pure _ _ := rfl
  run_bind _ _ _ := rfl

/-- Two states, one on top of the other, are run as a pair. -/
def stacked (σ τ : Type) : Runner (StateT σ (StateM τ)) (σ × τ) where
  run act s := (((act.run s.1).run s.2).1.1, ((act.run s.1).run s.2).1.2, ((act.run s.1).run s.2).2)
  run_pure _ _ := rfl
  run_bind _ _ _ := rfl

section
variable {m : Type → Type} [Monad m] {σ : Type} (r : Runner m σ) (t : Transport m) (clock : Clock m)

/-- A step is what its call comes to on a state, and leads to another state. -/
def Takes (s s' : σ) : Step → Prop
  | .connect answer => r.run t.connect s = (answer, s')
  | .read address quantity answer => r.run (t.read address quantity) s = (answer, s')
  | .now instant => r.run clock.now s = (instant, s')
  | .write address values answer => r.run (t.write address values) s = (answer, s')
  | .pause d => r.run (clock.pause d) s = ((), s')
  | .close => r.run t.close s = ((), s')

/-- Steps that are taken one after the other. -/
def Plays : σ → List Step → σ → Prop
  | s, [], s' => s = s'
  | s, step :: rest, s'' => ∃ s', r.Takes t clock s s' step ∧ Plays s' rest s''

variable {r t clock} {s s' : σ} {layout : RegisterMap} {time : DeviceTime}

theorem plays_append {first rest : List Step} {s'' : σ} :
    r.Plays t clock s (first ++ rest) s'' ↔ ∃ s', r.Plays t clock s first s' ∧ r.Plays t clock s' rest s'' := by
  induction first generalizing s with
  | nil => simp [Plays]
  | cons step first ih =>
    constructor
    · rintro ⟨s₁, taken, played⟩
      obtain ⟨s', h₁, h₂⟩ := ih.mp played
      exact ⟨s', ⟨s₁, taken, h₁⟩, h₂⟩
    · rintro ⟨s', ⟨s₁, taken, h₁⟩, h₂⟩
      exact ⟨s₁, taken, ih.mpr ⟨s', h₁, h₂⟩⟩

@[simp] theorem plays_singleton {step : Step} : r.Plays t clock s [step] s' ↔ r.Takes t clock s s' step := by
  simp [Plays]

/-! ### The rules determine the run -/

theorem run_readClock {answer : Except Fault (List UInt16)} (taken : r.Takes t clock s s' (.reading layout answer)) :
    r.run (readClock t layout) s = ((clockShown answer).mapError (.read layout.readRange), s') := by
  have taken : r.run (t.read layout.readAddress layout.readCount) s = (answer, s') := taken
  rw [readClock, r.run_bind, taken]
  rcases answer with cause | registers
  · exact r.run_pure _ _
  · simp only [clockShown]
    rcases DeviceTime.ofRegisters registers with cause | time <;> exact r.run_pure _ _

theorem run_readClock_of_shown {answer : Except Fault (List UInt16)} (taken : r.Takes t clock s s' (.reading layout answer))
    (shown : clockShown answer = .ok time) : r.run (readClock t layout) s = (.ok time, s') := by
  rw [run_readClock taken, shown]
  rfl

theorem run_writeClock {writes : List Step} {result : Except Failure Unit} (written : Writing layout time writes result)
    (played : r.Plays t clock s writes s') : r.run (writeClock t layout time) s = (result, s') := by
  cases written with
  | epochRefused cause =>
    obtain ⟨s₁, refused, rfl⟩ := played
    rw [writeClock, r.run_bind, show r.run _ s = _ from refused]
    exact r.run_pure _ _
  | epochAlone off =>
    obtain ⟨s₁, taken, rfl⟩ := played
    rw [writeClock, r.run_bind, show r.run _ s = _ from taken]
    simp only [writeMilliseconds, off]
    exact r.run_pure _ _
  | millisecondsRefused on cause =>
    obtain ⟨s₁, taken, s₂, refused, rfl⟩ := played
    rw [writeClock, r.run_bind, show r.run _ s = _ from taken]
    simp only [writeMilliseconds, on, if_true]
    rw [r.run_bind, show r.run _ s₁ = _ from refused]
    exact r.run_pure _ _
  | both on =>
    obtain ⟨s₁, taken, s₂, takenMs, rfl⟩ := played
    rw [writeClock, r.run_bind, show r.run _ s = _ from taken]
    simp only [writeMilliseconds, on, if_true]
    rw [r.run_bind, show r.run _ s₁ = _ from takenMs]
    exact r.run_pure _ _

theorem run_verifyClock {before host : DeviceTime} {back : Except Fault (List UInt16)}
    (taken : r.Takes t clock s s' (.reading layout back)) :
    r.run (verifyClock t layout before host) s =
      (match clockShown back with
        | .error cause => .unverified before host (.verify cause)
        | .ok after => .synced before host after, s') := by
  rw [verifyClock, r.run_bind, run_readClock taken]
  rcases clockShown back with cause | after <;> exact r.run_pure _ _

/-- Once the time is written, what is left is the reading back. -/
theorem run_exchangeOpen_of_written {settle : Duration} {answer : Except Fault (List UInt16)} {before : DeviceTime}
    {now : Instant} {writes : List Step} (shown : clockShown answer = .ok before)
    (written : Writing layout (.ofInstant now) writes (.ok ()))
    (played : r.Plays t clock s ([.reading layout answer, .now now] ++ writes ++ settling settle) s') :
    r.run (exchangeOpen t clock layout settle) s = r.run (verifyClock t layout before (.ofInstant now)) s' := by
  simp only [plays_append] at played
  obtain ⟨s₃, ⟨s₂, ⟨s₁, taken, s₂, read, rfl⟩, played⟩, settled⟩ := played
  rw [exchangeOpen, r.run_bind, run_readClock_of_shown taken shown]
  simp only
  rw [r.run_bind, show r.run _ s₁ = _ from read]
  simp only
  rw [r.run_bind, run_writeClock written played]
  unfold settling at settled
  split at settled
  · rename_i zero
    cases settled
    simp only [zero, if_true]
  · rename_i long
    obtain ⟨s₄, paused, rfl⟩ := settled
    simp only [long, Bool.false_eq_true, if_false]
    rw [r.run_bind, show r.run _ s₃ = _ from paused]

/-- What is said on an open connection determines its outcome. -/
theorem run_exchangeOpen {settings : Settings} {steps : List Step} {outcome : Outcome}
    (course : Course settings steps outcome) (played : r.Plays t clock s steps s') :
    r.run (exchangeOpen t clock settings.registers settings.settleDelay) s = (outcome, s') := by
  cases course with
  | unread shown =>
    obtain ⟨s₁, taken, rfl⟩ := played
    rw [exchangeOpen, r.run_bind, run_readClock taken, shown]
    exact r.run_pure _ _
  | unwritten shown written =>
    obtain ⟨s₁, taken, s₂, read, played⟩ := played
    rw [exchangeOpen, r.run_bind, run_readClock_of_shown taken shown]
    simp only
    rw [r.run_bind, show r.run _ s₁ = _ from read]
    simp only
    rw [r.run_bind, run_writeClock written played]
    exact r.run_pure _ _
  | unverified shown written unshown =>
    obtain ⟨s₁, played, back⟩ := plays_append.mp played
    rw [run_exchangeOpen_of_written shown written played, run_verifyClock (plays_singleton.mp back), unshown]
  | synced shown written shownBack =>
    obtain ⟨s₁, played, back⟩ := plays_append.mp played
    rw [run_exchangeOpen_of_written shown written played, run_verifyClock (plays_singleton.mp back), shownBack]

theorem run_exchange {settings : Settings} {steps : List Step} {outcome : Outcome}
    (talk : Conversation settings steps outcome) (played : r.Plays t clock s steps s') :
    r.run (exchange t clock settings) s = (outcome, s') := by
  rw [exchange, r.run_bind, Transport.session, r.run_bind]
  cases talk with
  | unconnected cause =>
    obtain ⟨s₁, refused, s₂, closed, rfl⟩ := played
    rw [show r.run _ s = _ from refused]
    simp only
    rw [r.run_bind, show r.run _ s₁ = _ from closed]
    simp only [r.run_pure]
  | connected course =>
    obtain ⟨s₂, ⟨s₁, opened, played⟩, closed⟩ := plays_append.mp played
    rw [show r.run _ s = _ from opened]
    simp only
    rw [r.run_bind, run_exchangeOpen course played, r.run_bind, show r.run _ s₂ = _ from plays_singleton.mp closed]
    simp only [r.run_pure]

/-! ### Every run keeps to the rules -/

variable (r t clock) (s)

theorem exists_reading (layout : RegisterMap) : ∃ answer s', r.Takes t clock s s' (.reading layout answer) :=
  ⟨_, _, rfl⟩

theorem exists_writing (layout : RegisterMap) (time : DeviceTime) :
    ∃ writes result s', Writing layout time writes result ∧ r.Plays t clock s writes s' := by
  rcases he : r.run (t.write layout.writeEpochAddress time.epochRegisters) s with ⟨cause | _, s₁⟩
  · exact ⟨_, _, s₁, .epochRefused cause, s₁, he, rfl⟩
  cases on : layout.writeMsEnabled with
  | false => exact ⟨_, _, s₁, .epochAlone on, s₁, he, rfl⟩
  | true =>
    rcases hm : r.run (t.write layout.writeMsAddress [time.milliseconds]) s₁ with ⟨cause | _, s₂⟩
    · exact ⟨_, _, s₂, .millisecondsRefused on cause, s₁, he, s₂, hm, rfl⟩
    · exact ⟨_, _, s₂, .both on, s₁, he, s₂, hm, rfl⟩

theorem exists_settling (settle : Duration) : ∃ s', r.Plays t clock s (settling settle) s' := by
  unfold settling
  split
  · exact ⟨s, rfl⟩
  · exact ⟨_, _, rfl, rfl⟩

theorem exists_course (settings : Settings) :
    ∃ steps outcome s', Course settings steps outcome ∧ r.Plays t clock s steps s' := by
  obtain ⟨answer, s₁, taken⟩ := exists_reading r t clock s settings.registers
  rcases shown : clockShown answer with cause | before
  · exact ⟨_, _, s₁, .unread shown, s₁, taken, rfl⟩
  rcases read : r.run clock.now s₁ with ⟨now, s₂⟩
  obtain ⟨writes, result, s₃, written, played⟩ := exists_writing r t clock s₂ settings.registers (.ofInstant now)
  have asked : r.Plays t clock s [.reading settings.registers answer, .now now] s₂ := ⟨s₁, taken, s₂, read, rfl⟩
  have told := plays_append.mpr ⟨s₂, asked, played⟩
  rcases result with failure | _
  · exact ⟨_, _, s₃, .unwritten shown written, told⟩
  obtain ⟨s₄, settled⟩ := exists_settling r t clock s₃ settings.settleDelay
  obtain ⟨back, s₅, takenBack⟩ := exists_reading r t clock s₄ settings.registers
  have whole := plays_append.mpr ⟨s₄, plays_append.mpr ⟨s₃, told, settled⟩, plays_singleton.mpr takenBack⟩
  rcases shownBack : clockShown back with cause | after
  · exact ⟨_, _, s₅, .unverified shown written shownBack, whole⟩
  · exact ⟨_, _, s₅, .synced shown written shownBack, whole⟩

theorem exists_conversation (settings : Settings) :
    ∃ steps outcome s', Conversation settings steps outcome ∧ r.Plays t clock s steps s' := by
  rcases opened : r.run t.connect s with ⟨cause | _, s₁⟩
  · exact ⟨_, _, _, .unconnected cause, s₁, opened, _, rfl, rfl⟩
  · obtain ⟨steps, outcome, s₂, course, played⟩ := exists_course r t clock s₁ settings
    have closed : r.Takes t clock s₂ (r.run t.close s₂).2 .close := rfl
    exact ⟨_, outcome, _, .connected course,
      plays_append.mpr ⟨s₂, ⟨s₁, opened, played⟩, plays_singleton.mpr closed⟩⟩

variable {r t clock s}

/-- An exchange comes to an outcome exactly when a conversation with this outcome is played on its transport. -/
theorem run_exchange_iff {settings : Settings} {outcome : Outcome} :
    r.run (exchange t clock settings) s = (outcome, s') ↔
      ∃ steps, Conversation settings steps outcome ∧ r.Plays t clock s steps s' := by
  constructor
  · intro h
    obtain ⟨steps, outcome₀, s₀, talk, played⟩ := exists_conversation r t clock s settings
    obtain ⟨rfl, rfl⟩ := Prod.mk.inj ((run_exchange talk played).symm.trans h)
    exact ⟨steps, talk, played⟩
  · rintro ⟨steps, talk, played⟩
    exact run_exchange talk played

end

end Runner

/-- A clock that stands still. -/
def standing {m : Type → Type} [Monad m] (now : Instant) : Clock m where
  now := pure now
  pause _ := pure ()

/-! ### Answers at will -/

/-- A device and a host's clock that answer at will: each answer may depend on all that was said before. -/
structure Behaviour where
  connect : List Step → Except Fault Unit
  read : List Step → UInt16 → UInt16 → Except Fault (List UInt16)
  write : List Step → UInt16 → List UInt16 → Except Fault Unit
  isConnected : List Step → Bool
  now : List Step → Instant

namespace Behaviour

/-- A behaviour as a transport that remembers what was said. -/
def transport (b : Behaviour) : Transport (StateM (List Step)) where
  connect said := (b.connect said, said ++ [.connect (b.connect said)])
  read address quantity said :=
    (b.read said address quantity, said ++ [.read address quantity (b.read said address quantity)])
  write address values said := (b.write said address values, said ++ [.write address values (b.write said address values)])
  close said := ((), said ++ [.close])
  isConnected said := (b.isConnected said, said)

/-- A behaviour as a clock. -/
def clock (b : Behaviour) : Clock (StateM (List Step)) where
  now said := (b.now said, said ++ [.now (b.now said)])
  pause d said := ((), said ++ [.pause d])

/-- The answer in a step is the one that a behaviour gives after what was said before. -/
def Answers (b : Behaviour) (said : List Step) : Step → Prop
  | .connect answer => answer = b.connect said
  | .read address quantity answer => answer = b.read said address quantity
  | .now instant => instant = b.now said
  | .write address values answer => answer = b.write said address values
  | .pause _ => True
  | .close => True

/-- All answers in steps are those of a behaviour. -/
def Gives (b : Behaviour) : (said steps : List Step) → Prop
  | _, [] => True
  | said, step :: rest => b.Answers said step ∧ b.Gives (said ++ [step]) rest

variable {b : Behaviour} {said after : List Step}

theorem takes_iff {step : Step} :
    (Runner.state _).Takes b.transport b.clock said after step ↔ b.Answers said step ∧ after = said ++ [step] := by
  constructor
  · intro taken
    cases step <;> cases taken <;> exact ⟨by trivial, rfl⟩
  · rintro ⟨given, rfl⟩
    cases step <;> cases given <;> rfl

theorem plays_iff {steps : List Step} :
    (Runner.state _).Plays b.transport b.clock said steps after ↔ b.Gives said steps ∧ after = said ++ steps := by
  induction steps generalizing said with
  | nil => simp [Runner.Plays, Gives, eq_comm]
  | cons step rest ih => simp [Runner.Plays, Gives, takes_iff, ih, and_assoc]

end Behaviour

section
variable {b : Behaviour} {settings : Settings} {outcome : Outcome} {steps : List Step}

/-- An exchange that ran was a conversation with the answers it got. -/
theorem Behaviour.conversation_of_run (ran : (exchange b.transport b.clock settings).run [] = (outcome, steps)) :
    Conversation settings steps outcome ∧ b.Gives [] steps := by
  have ran : (Runner.state _).run (exchange b.transport b.clock settings) [] = (outcome, steps) := ran
  obtain ⟨said, talk, played⟩ := Runner.run_exchange_iff.mp ran
  obtain ⟨given, rfl⟩ := Behaviour.plays_iff.mp played
  exact ⟨talk, given⟩

/-- A conversation with the answers that a behaviour gives is how the exchange runs. -/
theorem Conversation.run (talk : Conversation settings steps outcome) (given : b.Gives [] steps) :
    (exchange b.transport b.clock settings).run [] = (outcome, steps) := by
  have played : (Runner.state _).Plays b.transport b.clock [] steps steps := Behaviour.plays_iff.mpr ⟨given, rfl⟩
  exact Runner.run_exchange talk played

end

/-- Whatever a device and a host's clock answer, an exchange says and comes to exactly what the rules of a conversation
    with these answers tell. -/
theorem exchange_eq_iff_conversation (b : Behaviour) (settings : Settings) (outcome : Outcome) (steps : List Step) :
    (exchange b.transport b.clock settings).run [] = (outcome, steps) ↔
      Conversation settings steps outcome ∧ b.Gives [] steps := by
  constructor
  · exact Behaviour.conversation_of_run
  · rintro ⟨talk, given⟩
    exact talk.run given

end FieldClock
