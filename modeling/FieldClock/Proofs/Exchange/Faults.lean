import FieldClock.Proofs.Exchange.Conversation
import FieldClock.Proofs.Likeness
import FieldClock.Proofs.Modbus.Faults
import FieldClock.Proofs.Settings.Validity
import FieldClock.Settings.Reading

/-!
# Faults of an exchange

What an exchange over a network can end with. The guards of the client stand behind those of the settings: settings that are
accepted ask for no request that a frame cannot carry and give time for every answer, so none of the client's own checks is
ever met, and a payload is found bad only for its milliseconds.
-/

namespace FieldClock

open Modbus

/-- Settings that were found without a defect, or read from a document. -/
def Settings.Accepted (s : Settings) : Prop := s.defect? = none ∨ ∃ document, Settings.ofToml document = .ok s

theorem Settings.Accepted.valid {s : Settings} (accepted : s.Accepted) : s.Valid := by
  rw [← Settings.defect?_eq_none_iff]
  rcases accepted with none | ⟨document, read⟩
  · exact none
  unfold Settings.ofToml at read
  split at read
  · cases read
  split at read
  · cases read
  unfold Settings.validated at read
  split at read
  · cases read
  · cases read
    assumption

/-- The faults of the guards: a count of registers that no frame carries, and time that was not given. -/
inductive Fault.OfGuard : Fault → Prop
  | registerCount (count : Nat) : OfGuard (.fieldbus (.modbus (.registerCount count)))
  | connectTimeout : OfGuard (.fieldbus (.modbus (.dial .zeroConnectTimeout)))
  | readTimeout : OfGuard (.fieldbus (.modbus (.dial .zeroReadTimeout)))
  | writeTimeout : OfGuard (.fieldbus (.modbus (.dial .zeroWriteTimeout)))

/-! ### Exchanges with notes -/

/-- The call to a device that a step is, if it is one, with its answer. -/
def Step.call? : Step → Option (Call × Except Fault (List UInt16))
  | .connect answer => some (.connect, answer.map fun _ => [])
  | .read address quantity answer => some (.read address quantity, answer)
  | .write address values answer => some (.write address values, answer.map fun _ => [])
  | .close => some (.close, .ok [])
  | .now _ => none
  | .pause _ => none

theorem Runner.run_make {m : Type → Type} [Monad m] {σ : Type} {r : Runner m σ} {t : Transport m} {clock : Clock m}
    {s s' : σ} {step : Step} {call : Call} {answer : Except Fault (List UInt16)} (taken : r.Takes t clock s s' step)
    (told : step.call? = some (call, answer)) : r.run (call.make t) s = (answer, s') := by
  cases step with
  | connect found =>
    obtain ⟨rfl, rfl⟩ := Prod.mk.inj (Option.some.inj told)
    rw [Call.make, r.run_bind, show r.run t.connect s = _ from taken]
    exact r.run_pure _ _
  | read address quantity found =>
    obtain ⟨rfl, rfl⟩ := Prod.mk.inj (Option.some.inj told)
    exact taken
  | write address values found =>
    obtain ⟨rfl, rfl⟩ := Prod.mk.inj (Option.some.inj told)
    rw [Call.make, Request.perform, r.run_bind, show r.run (t.write address values) s = _ from taken]
    exact r.run_pure _ _
  | close =>
    obtain ⟨rfl, rfl⟩ := Prod.mk.inj (Option.some.inj told)
    rw [Call.make, r.run_bind, show r.run t.close s = _ from taken]
    exact r.run_pure _ _
  | now instant => cases told
  | pause d => cases told

/-- The exchange with a target over a wire on which all actions are noted, from any state of the client. -/
def exchangeOn {σ κ : Type} (wire : Wire (StateM σ) κ) (settings : Settings) (target : Target) (now : Instant)
    (connection : Option κ) (transactionId : UInt16) (s : σ) : Outcome × List (Act κ) :=
  let c : Client κ := ⟨.ofTarget settings target, connection, transactionId⟩
  let ((outcome, _), acts, _) := ((exchange (Client.transport wire.noting) (standing now) settings).run c).run ([], s)
  (outcome, acts)

theorem exchangeOn_outcome {σ κ : Type} (wire : Wire (StateM σ) κ) (settings : Settings) (target : Target) (now : Instant)
    (connection : Option κ) (transactionId : UInt16) (s : σ) :
    (exchangeOn wire settings target now connection transactionId s).1 =
      (((exchange (Client.transport wire) (standing now) settings).run
        ⟨.ofTarget settings target, connection, transactionId⟩).run s).1.1 := by
  have clocks : ((noted (List (Act κ)) σ).stateful (Client κ)).Clocks (standing now) (standing now) :=
    ⟨Likeness.alike_pure _ _, fun _ => Likeness.alike_pure _ _⟩
  obtain ⟨acts, run⟩ := (wires_noting wire).transports.exchange clocks settings
    ⟨.ofTarget settings target, connection, transactionId⟩ [] s
  exact congrArg (fun result => result.1.1) run

/-- The faults that a device, the way to it or the network can cause, with the actions that show the device's own. -/
inductive Explained {κ : Type} (unitId : UInt8) (layout : RegisterMap) (acts : List (Act κ)) : Fault → Prop
  | undialled {cause : DialFault} (connecting : cause ≠ .zeroConnectTimeout) (answering : cause ≠ .zeroReadTimeout)
      (asking : cause ≠ .zeroWriteTimeout) : Explained unitId layout acts (.fieldbus (.modbus (.dial cause)))
  | online {cause : Modbus.Fault} (online : cause.OnLine) : Explained unitId layout acts (.fieldbus (.modbus cause))
  | milliseconds {reading : List (Act κ)} {registers : List UInt16} {ms : UInt16} (made : reading <:+: acts)
      (reads : Reads unitId layout.readAddress layout.readCount registers reading) (third : registers[2]? = some ms)
      (large : 999 < ms) : Explained unitId layout acts (.malformed (.millisecondsOutOfRange ms))

namespace Explained

variable {κ : Type} {unitId : UInt8} {layout : RegisterMap} {acts acts' : List (Act κ)} {cause : Fault}

theorem mono (explained : Explained unitId layout acts cause) (further : acts <+: acts') :
    Explained unitId layout acts' cause := by
  cases explained with
  | undialled connecting answering asking => exact .undialled connecting answering asking
  | online online => exact .online online
  | milliseconds made reads third large => exact .milliseconds (made.trans further.isInfix) reads third large

theorem not_ofGuard (explained : Explained unitId layout acts cause) : ¬ cause.OfGuard := by
  intro guarded
  cases guarded with
  | registerCount count =>
    cases explained with
    | online online => exact online
  | connectTimeout =>
    cases explained with
    | undialled connecting answering => exact connecting rfl
    | online online => exact online
  | readTimeout =>
    cases explained with
    | undialled connecting answering => exact answering rfl
    | online online => exact online
  | writeTimeout =>
    cases explained with
    | undialled connecting answering asking => exact asking rfl
    | online online => exact online

end Explained

section
variable {σ κ : Type} {wire : Wire (StateM σ) κ} {now : Instant} {settings : Settings} {layout : RegisterMap}

/-- A state in which an exchange is, and what was noted. -/
abbrev Noted (σ κ : Type) := Client κ × List (Act κ) × σ

variable (wire now) in
/-- A step of an exchange on a noting wire. -/
abbrev Noted.Takes (before after : Noted σ κ) (step : Step) : Prop :=
  (Runner.stacked _ _).Takes (Client.transport wire.noting) (standing now) before after step

/-- What happens later leaves the endpoint alone and notes more. -/
structure Noted.Continues (before after : Noted σ κ) : Prop where
  endpoint : after.1.endpoint = before.1.endpoint
  noted : before.2.1 <+: after.2.1

variable {before after : Noted σ κ} {step : Step} {call : Call} {answer : Except Fault (List UInt16)}

theorem Noted.Continues.refl (s : Noted σ κ) : s.Continues s := ⟨rfl, List.prefix_rfl⟩

theorem Noted.Continues.trans {s₁ s₂ s₃ : Noted σ κ} (first : s₁.Continues s₂) (next : s₂.Continues s₃) : s₁.Continues s₃ :=
  ⟨next.endpoint.trans first.endpoint, first.noted.trans next.noted⟩

theorem makes_of_takes (taken : Noted.Takes wire now before after step) (told : step.call? = some (call, answer)) :
    ∃ new, after.2.1 = before.2.1 ++ new ∧ Makes before.1 call new answer after.1 := by
  obtain ⟨new, added, makes, -⟩ := follows_make wire before.1 before.2.1 before.2.2 call
  have run := Runner.run_make taken told
  obtain ⟨answered, left⟩ := Prod.mk.inj run
  obtain ⟨client, rest⟩ := Prod.mk.inj left
  refine ⟨new, ?_, ?_⟩
  · rw [← added]
    exact congrArg Prod.fst rest.symm
  · rw [← answered, ← client]
    exact makes

theorem Noted.continues_of_takes (taken : Noted.Takes wire now before after step) : before.Continues after := by
  rcases told : step.call? with _ | ⟨call, answer⟩
  · cases step with
    | now instant =>
      obtain ⟨-, rfl⟩ := Prod.mk.inj taken
      exact .refl _
    | pause d =>
      obtain ⟨-, rfl⟩ := Prod.mk.inj taken
      exact .refl _
    | _ => cases told
  · obtain ⟨new, added, makes⟩ := makes_of_takes taken told
    exact ⟨makes.endpoint, ⟨new, added.symm⟩⟩

theorem Noted.continues_of_plays {steps : List Step}
    (played : (Runner.stacked _ _).Plays (Client.transport wire.noting) (standing now) before steps after) :
    before.Continues after := by
  induction steps generalizing before with
  | nil =>
    obtain rfl := played
    exact .refl _
  | cons step rest ih =>
    obtain ⟨s, taken, played⟩ := played
    exact (Noted.continues_of_takes taken).trans (ih played)

theorem ofRegisters_fault {registers : List UInt16} {cause : Malformed} (enough : 3 ≤ registers.length)
    (fails : DeviceTime.ofRegisters registers = .error cause) :
    ∃ ms, registers[2]? = some ms ∧ 999 < ms ∧ cause = .millisecondsOutOfRange ms := by
  unfold DeviceTime.ofRegisters at fails
  split at fails
  · rename_i hi lo ms rest
    split at fails
    · cases fails
      exact ⟨ms, rfl, by assumption, rfl⟩
    · cases fails
  · rename_i few
    rcases registers with _ | ⟨hi, _ | ⟨lo, _ | ⟨ms, rest⟩⟩⟩
    · cases enough
    · simp at enough
    · simp at enough
    · exact absurd rfl (few hi lo ms rest)

/-- Why a reading of the clock shows no time. -/
theorem explained_reading {answer : Except Fault (List UInt16)} {cause : Fault} (valid : settings.Valid)
    (taken : Noted.Takes wire now before after (.reading settings.registers answer))
    (unshown : clockShown answer = .error cause) :
    Explained before.1.endpoint.unitId settings.registers after.2.1 cause := by
  obtain ⟨enough, small⟩ := valid.readCount_toNat
  obtain ⟨new, added, makes⟩ := makes_of_takes taken rfl
  rcases answer with fault | registers
  · obtain rfl := Except.error.inj unshown
    have legal : (Request.read settings.registers.readAddress settings.registers.readCount).Legal :=
      ⟨Nat.ne_zero_of_lt enough, small⟩
    obtain ⟨fault, online, rfl⟩ := makes.onLine rfl legal
    exact .online online
  -- Enough registers came, so only their milliseconds can be wrong.
  · have reads := makes.reads
    rcases decoded : DeviceTime.ofRegisters registers with malformed | time
    · rw [clockShown, decoded] at unshown
      obtain rfl := Except.error.inj unshown
      have length : registers.length = settings.registers.readCount.toNat := by
        cases reads with
        | whole passes length shown => exact length
      obtain ⟨ms, third, large, rfl⟩ := ofRegisters_fault (length ▸ enough) decoded
      exact .milliseconds ⟨before.2.1, [], by rw [added, List.append_nil]⟩ reads third large
    · rw [clockShown, decoded] at unshown
      cases unshown

theorem explained_write {address : UInt16} {values : List UInt16} {cause : Fault}
    (legal : (Request.write address values).Legal)
    (taken : Noted.Takes wire now before after (.write address values (.error cause)))
    (unitId : UInt8) (acts : List (Act κ)) : Explained unitId layout acts cause := by
  obtain ⟨new, added, makes⟩ := makes_of_takes taken rfl
  obtain ⟨fault, online, rfl⟩ := makes.onLine rfl legal
  exact .online online

theorem explained_writing {time : DeviceTime} {steps : List Step} {failure : Failure}
    (written : Writing layout time steps (.error failure))
    (played : (Runner.stacked _ _).Plays (Client.transport wire.noting) (standing now) before steps after)
    (unitId : UInt8) (acts : List (Act κ)) : Explained unitId layout acts failure.cause := by
  cases written with
  | epochRefused cause =>
    have legal : (Request.write layout.writeEpochAddress time.epochRegisters).Legal :=
      ⟨Nat.succ_ne_zero 1, Nat.le_of_ble_eq_true rfl⟩
    exact explained_write legal (Runner.plays_singleton.mp played) unitId acts
  | millisecondsRefused on cause =>
    obtain ⟨s, -, refused⟩ := played
    have legal : (Request.write layout.writeMsAddress [time.milliseconds]).Legal :=
      ⟨Nat.succ_ne_zero 0, Nat.le_of_ble_eq_true rfl⟩
    exact explained_write legal (Runner.plays_singleton.mp refused) unitId acts

theorem explained_connect {cause : Fault} (timely : wire.Timely) (connecting : before.1.endpoint.connectTimeout.isZero = false)
    (answering : before.1.endpoint.ioTimeout.isZero = false)
    (refused : Noted.Takes wire now before after (.connect (.error cause))) (unitId : UInt8) (acts : List (Act κ)) :
    Explained unitId layout acts cause := by
  obtain ⟨c, noted, s⟩ := before
  have failed : (Client.connect wire.noting c).run (noted, s) = ((.error cause, after.1), after.2) := by
    obtain ⟨answered, left⟩ := Prod.mk.inj refused
    obtain ⟨client, rest⟩ := Prod.mk.inj left
    exact Prod.ext (Prod.ext answered client) rest
  rw [Client.connect] at failed
  rcases dialled : (wire.dial c.endpoint).run s with ⟨fault | k, s₁⟩
  · rw [run_bind_of (run_dial dialled)] at failed
    obtain rfl := Except.error.inj (Prod.mk.inj (Prod.mk.inj failed).1).1
    refine .undialled ?_ ?_ ?_
    · rintro rfl
      rw [timely.connecting _ s (congrArg Prod.fst dialled)] at connecting
      cases connecting
    · rintro rfl
      rw [timely.answering _ s (congrArg Prod.fst dialled)] at answering
      cases answering
    · rintro rfl
      rw [timely.asking _ s (congrArg Prod.fst dialled)] at answering
      cases answering
  · rw [run_bind_of (run_dial dialled)] at failed
    rcases c with ⟨endpoint, _ | old, n⟩ <;> cases failed

/-- Why an exchange on an open connection fails. -/
theorem explained_course {steps : List Step} {outcome : Outcome} {failure : Failure} (valid : settings.Valid)
    (course : Course settings steps outcome)
    (played : (Runner.stacked _ _).Plays (Client.transport wire.noting) (standing now) before steps after)
    (fails : outcome.failure = some failure) :
    Explained before.1.endpoint.unitId settings.registers after.2.1 failure.cause := by
  cases course with
  | unread unshown =>
    obtain rfl := Option.some.inj fails
    exact explained_reading valid (Runner.plays_singleton.mp played) unshown
  | unwritten shown written =>
    obtain rfl := Option.some.inj fails
    obtain ⟨s, -, played⟩ := Runner.plays_append.mp played
    exact explained_writing written played _ _
  | unverified shown written unshown =>
    obtain rfl := Option.some.inj fails
    obtain ⟨s, told, back⟩ := Runner.plays_append.mp played
    rw [← (Noted.continues_of_plays told).endpoint]
    exact explained_reading valid (Runner.plays_singleton.mp back) unshown
  | synced => cases fails

theorem explained_exchangeOn (accepted : settings.Accepted) (timely : wire.Timely) (target : Target) (now : Instant)
    (connection : Option κ) (transactionId : UInt16) (s : σ) {failure : Failure}
    (fails : (exchangeOn wire settings target now connection transactionId s).1.failure = some failure) :
    Explained (Endpoint.ofTarget settings target).unitId settings.registers
      (exchangeOn wire settings target now connection transactionId s).2 failure.cause := by
  have valid := accepted.valid
  obtain ⟨steps, outcome, last, talk, played⟩ := Runner.exists_conversation (Runner.stacked _ _)
    (Client.transport wire.noting) (standing now) (⟨.ofTarget settings target, connection, transactionId⟩, [], s) settings
  have run := Runner.run_exchange talk played
  have exchanged : exchangeOn wire settings target now connection transactionId s = (outcome, last.2.1) :=
    congrArg (fun result => (result.1, result.2.2.1)) run
  rw [exchanged] at fails ⊢
  cases talk with
  | unconnected cause =>
    obtain rfl := Option.some.inj fails
    obtain ⟨s₁, refused, -⟩ := played
    exact explained_connect timely valid.timeout valid.timeout refused _ _
  | connected course =>
    obtain ⟨s₂, ⟨s₁, opened, played⟩, closed⟩ := Runner.plays_append.mp played
    -- What closing adds to the notes does not take the reading out of them.
    have explained := explained_course valid course played fails
    rw [(Noted.continues_of_takes opened).endpoint] at explained
    exact explained.mono (Noted.continues_of_plays closed).noted

end

/-- With settings that are accepted, and on every network that takes the time it is given, no exchange ends with a fault of
    the guards, and a payload is malformed only by milliseconds above 999 in the accepted reply of a reading. The notes that show
    the reading change nothing in what the exchange comes to. -/
theorem exchangeOn_faults {settings : Settings} (accepted : settings.Accepted) {σ κ : Type} {wire : Wire (StateM σ) κ}
    (timely : wire.Timely) (target : Target) (now : Instant) (connection : Option κ) (transactionId : UInt16) (s : σ) :
    let exchanged := exchangeOn wire settings target now connection transactionId s
    let unitId := (Endpoint.ofTarget settings target).unitId
    exchanged.1 = (((exchange (Client.transport wire) (standing now) settings).run
        ⟨.ofTarget settings target, connection, transactionId⟩).run s).1.1 ∧
      ∀ failure, exchanged.1.failure = some failure →
        ¬ failure.cause.OfGuard ∧
          ∀ malformed, failure.cause = .malformed malformed →
            ∃ reading registers ms, reading <:+: exchanged.2 ∧
              Reads unitId settings.registers.readAddress settings.registers.readCount registers reading ∧
              registers[2]? = some ms ∧ 999 < ms ∧ malformed = .millisecondsOutOfRange ms := by
  intro exchanged unitId
  refine ⟨exchangeOn_outcome wire settings target now connection transactionId s, ?_⟩
  intro failure fails
  have explained := explained_exchangeOn accepted timely target now connection transactionId s fails
  refine ⟨explained.not_ofGuard, ?_⟩
  intro malformed found
  rw [found] at explained
  cases explained with
  | milliseconds made reads third large => exact ⟨_, _, _, made, reads, third, large, rfl⟩

/-- A device whose clock shows 1000 milliseconds. -/
def overfullDevice : Peer where
  connections := [[{ bytes := [0, 1, 0, 0, 0, 9, 1, 4, 6, 0, 1, 0, 2, 3, 232] }]]

theorem exchangeOn_overfullDevice :
    Settings.standard.Accepted ∧ (Peer.wire : Wire (StateM Peer) Line).Timely ∧
      ∃ failure,
        (exchangeOn Peer.wire .standard { host := "192.168.7.2" } ⟨1736748928, 5000000, by decide, by decide⟩ none 0
            overfullDevice).1.failure = some failure ∧
          failure.cause = .malformed (.millisecondsOutOfRange 1000) ∧ ¬ failure.cause.OfGuard := by
  have accepted : Settings.standard.Accepted := .inl (by decide)
  have fails : (exchangeOn Peer.wire .standard { host := "192.168.7.2" } ⟨1736748928, 5000000, by decide, by decide⟩ none 0
      overfullDevice).1.failure = some (.read ⟨3, 3⟩ (.malformed (.millisecondsOutOfRange 1000))) := by
    rfl
  exact ⟨accepted, Peer.wire_timely, _, fails, rfl,
    ((exchangeOn_faults accepted Peer.wire_timely _ _ _ _ _).2 _ fails).1⟩

end FieldClock
