import FieldClock.Proofs.Exchange.Conversation
import FieldClock.Proofs.Exchange.Replies
import FieldClock.Proofs.Modbus.Receiving
import FieldClock.Proofs.Settings.Validity

/-!
# The exchange over a stream

The whole way from the bytes that a peer sends to the outcome of an exchange. An exchange succeeds just if the stream begins
with one frame for each request, in order, that answers it.
-/

namespace FieldClock

open Modbus

/-! ### Requests that are sent -/

/-- The PDUs of the writes in a layout. -/
def writePdus (layout : RegisterMap) (host : DeviceTime) : List (List UInt8) :=
  writeRequest layout.writeEpochAddress host.epochRegisters ::
    if layout.writeMsEnabled then [writeRequest layout.writeMsAddress [host.milliseconds]] else []

/-- The PDUs of the requests in a whole exchange. -/
def requestPdus (layout : RegisterMap) (host : DeviceTime) : List (List UInt8) :=
  readRequest layout.readAddress layout.readCount ::
    (writePdus layout host ++ [readRequest layout.readAddress layout.readCount])

/-- PDUs in frames numbered on from `n`. -/
def numberedFrames (unitId : UInt8) : UInt16 → List (List UInt8) → List (List UInt8)
  | _, [] => []
  | n, pdu :: rest => framed (n + 1) unitId pdu :: numberedFrames unitId (n + 1) rest

section
variable {unitId : UInt8} {n : UInt16}

theorem numberedFrames_length {pdus : List (List UInt8)} : (numberedFrames unitId n pdus).length = pdus.length := by
  induction pdus generalizing n with
  | nil => rfl
  | cons pdu pdus ih => rw [numberedFrames, List.length_cons, ih, List.length_cons]

theorem numberedFrames_append {first second : List (List UInt8)} :
    numberedFrames unitId n (first ++ second) =
      numberedFrames unitId n first ++ numberedFrames unitId (n + UInt16.ofNat first.length) second := by
  induction first generalizing n with
  | nil => simp [numberedFrames]
  | cons pdu first ih => simp only [List.cons_append, numberedFrames, ih, add_ofNat_succ, List.length_cons]

theorem writePdus_length (layout : RegisterMap) (host : DeviceTime) :
    (writePdus layout host).length = (echoes layout).length := by
  unfold writePdus echoes
  split <;> rfl

theorem numberedFrames_writePdus_length (layout : RegisterMap) (host : DeviceTime) :
    (numberedFrames unitId n (writePdus layout host)).length = (echoes layout).length := by
  rw [numberedFrames_length, writePdus_length]

theorem take_requestPdus {layout : RegisterMap} {host : DeviceTime} {k : Nat} (few : k ≤ (echoes layout).length) :
    (numberedFrames unitId 0 (requestPdus layout host)).take (k + 1) =
      framed 1 unitId (readRequest layout.readAddress layout.readCount) ::
        (numberedFrames unitId 1 (writePdus layout host)).take k := by
  rw [requestPdus, numberedFrames, List.take_succ_cons, numberedFrames_append,
    List.take_append_of_le_length (Nat.le_trans few (Nat.le_of_eq (numberedFrames_writePdus_length ..).symm))]
  rfl

end

/-! ### The world of an exchange -/

/-- The wire on which a peer says the same whatever it is asked. The frames sent are noted. -/
def saying (stream : Stream) : Wire (StateM (List (List UInt8))) Stream :=
  answering stream fun request sent => (⟨[], false⟩, sent ++ [request])

/-- The exchange of a fresh client with a target whose peer says `stream`: its outcome and the frames sent. -/
def exchangeOver (settings : Settings) (target : Target) (now : Instant) (stream : Stream) :
    Outcome × List (List UInt8) :=
  let ((outcome, _), sent) :=
    ((exchange (Client.transport (saying stream)) (standing now) settings).run
      { endpoint := .ofTarget settings target }).run []
  (outcome, sent)

namespace OverStream

section
variable {endpoint : Endpoint} {stream s : Stream} {n : UInt16} {sent : List (List UInt8)} {now : Instant}
  {layout : RegisterMap} {after : Client Stream × List (List UInt8)}

/-- The steps that an exchange takes on a wire where a peer says `stream`. -/
def Takes (stream : Stream) (now : Instant) (before after : Client Stream × List (List UInt8)) (step : Step) : Prop :=
  (Runner.stacked _ _).Takes (Client.transport (saying stream)) (standing now) before after step

theorem run_request_over (stream s : Stream) (endpoint : Endpoint) (n : UInt16) (sent : List (List UInt8))
    (pdu : List UInt8) :
    ∃ got, Received ⟨endpoint, some s, n + 1⟩ s got ∧
      (Client.request (saying stream) pdu ⟨endpoint, some s, n⟩).run sent =
        (got, sent ++ [framed (n + 1) endpoint.unitId pdu]) := by
  obtain ⟨got, received⟩ := exists_received ⟨endpoint, some s, n + 1⟩ s
  refine ⟨got, received, run_request rfl rfl ?_⟩
  rw [Stream.extend_nothing]
  exact received

theorem stacked_run {α : Type} {act : StateT (Client Stream) (StateM (List (List UInt8))) α} {a b : α}
    {c c' : Client Stream} {sent' : List (List UInt8)} (h : (act.run c).run sent = ((a, c'), sent')) :
    (Runner.stacked _ _).run act (c, sent) = (b, after) ↔ b = a ∧ after = (c', sent') := by
  show (((act.run c).run sent).1.1, ((act.run c).run sent).1.2, ((act.run c).run sent).2) = (b, after) ↔ _
  rw [h, Prod.mk.injEq]
  exact and_congr eq_comm eq_comm

theorem takes_read {address quantity : UInt16} (legal : (Request.read address quantity).Legal) :
    ∃ got, Received ⟨endpoint, some s, n + 1⟩ s got ∧
      ∀ {answer after}, Takes stream now (⟨endpoint, some s, n⟩, sent) after (.read address quantity answer) ↔
        answer = Client.answer (got.1 >>= readReply quantity) ∧
          after = (got.2, sent ++ [framed (n + 1) endpoint.unitId (readRequest address quantity)]) := by
  obtain ⟨⟨reply, c⟩, received, asked⟩ := run_request_over stream s endpoint n sent (readRequest address quantity)
  exact ⟨(reply, c), received, stacked_run (run_read legal.1 legal.2 asked)⟩

theorem takes_write {address : UInt16} {values : List UInt16} (legal : (Request.write address values).Legal) :
    ∃ got, Received ⟨endpoint, some s, n + 1⟩ s got ∧
      ∀ {answer after}, Takes stream now (⟨endpoint, some s, n⟩, sent) after (.write address values answer) ↔
        answer = Client.answer (got.1 >>= writeReply address (UInt16.ofNat values.length)) ∧
          after = (got.2, sent ++ [framed (n + 1) endpoint.unitId (writeRequest address values)]) := by
  obtain ⟨⟨reply, c⟩, received, asked⟩ := run_request_over stream s endpoint n sent (writeRequest address values)
  exact ⟨(reply, c), received, stacked_run (run_write legal.1 legal.2 asked)⟩

theorem clockShown_eq_ok_iff {answer : Except Fault (List UInt16)} {time : DeviceTime} :
    clockShown answer = .ok time ↔
      ∃ registers, answer = .ok registers ∧ time.registers <+: registers ∧ time.milliseconds ≤ 999 := by
  rcases answer with cause | registers
  · simp [clockShown]
  · simp only [Except.ok.injEq, exists_eq_left', ← DeviceTime.ofRegisters_eq_ok_iff, clockShown_ok]

/-! ### What is asked and heard -/

/-- A reading shows the clock just if the reply that shows it comes next. -/
theorem shows_iff {time : DeviceTime} (legal : (Request.read layout.readAddress layout.readCount).Legal) :
    (∃ answer, Takes stream now (⟨endpoint, some s, n⟩, sent) after (.reading layout answer) ∧
        clockShown answer = .ok time) ↔
      ∃ rest, Heard endpoint.unitId n [.clock layout.readCount time] s.unread rest ∧
        after = (⟨endpoint, some { s with unread := rest }, n + 1⟩,
          sent ++ [framed (n + 1) endpoint.unitId (readRequest layout.readAddress layout.readCount)]) := by
  obtain ⟨got, received, taken⟩ := takes_read legal
  constructor
  · rintro ⟨answer, h, shown⟩
    obtain ⟨rfl, rfl⟩ := taken.mp h
    obtain ⟨values, ok, shows⟩ := clockShown_eq_ok_iff.mp shown
    obtain ⟨frame, rest, arrived, answers, accepted, left⟩ :=
      received.bind_eq_ok_iff.mp ⟨Client.answer_eq_ok_iff.mp ok, rfl⟩
    obtain ⟨hlen, hregs⟩ := (read_accepted_iff legal.2).mp accepted
    exact ⟨rest, heard_singleton.mpr ⟨frame, arrived, answers, values, hlen, hregs, shows⟩, by rw [left]⟩
  · rintro ⟨rest, heard, rfl⟩
    obtain ⟨frame, arrived, answers, values, hlen, hregs, shows⟩ := heard_singleton.mp heard
    obtain ⟨ok, left⟩ :=
      received.bind_eq_ok_iff.mpr ⟨frame, rest, arrived, answers, (read_accepted_iff legal.2).mpr ⟨hlen, hregs⟩, rfl⟩
    refine ⟨_, taken.mpr ⟨rfl, ?_⟩, clockShown_eq_ok_iff.mpr ⟨values, Client.answer_eq_ok_iff.mpr ok, shows⟩⟩
    rw [left]

/-- A write is accepted just if its echo comes next. -/
theorem accepted_iff {address : UInt16} {values : List UInt16} (legal : (Request.write address values).Legal) :
    Takes stream now (⟨endpoint, some s, n⟩, sent) after (.write address values (.ok ())) ↔
      ∃ rest, Heard endpoint.unitId n [.echo address (UInt16.ofNat values.length)] s.unread rest ∧
        after = (⟨endpoint, some { s with unread := rest }, n + 1⟩,
          sent ++ [framed (n + 1) endpoint.unitId (writeRequest address values)]) := by
  obtain ⟨got, received, taken⟩ := takes_write legal
  rw [taken, eq_comm, Client.answer_eq_ok_iff]
  constructor
  · rintro ⟨ok, rfl⟩
    obtain ⟨frame, rest, arrived, answers, accepted, left⟩ := received.bind_eq_ok_iff.mp ⟨ok, rfl⟩
    exact ⟨rest, heard_singleton.mpr ⟨frame, arrived, answers, write_accepted_iff.mp accepted⟩, by rw [left]⟩
  · rintro ⟨rest, heard, rfl⟩
    obtain ⟨frame, arrived, answers, met⟩ := heard_singleton.mp heard
    obtain ⟨ok, left⟩ :=
      received.bind_eq_ok_iff.mpr ⟨frame, rest, arrived, answers, write_accepted_iff.mpr met, rfl⟩
    exact ⟨ok, by rw [left]⟩

theorem unshown {answer : Except Fault (List UInt16)} {cause : Fault}
    (legal : (Request.read layout.readAddress layout.readCount).Legal)
    (h : Takes stream now (⟨endpoint, some s, n⟩, sent) after (.reading layout answer))
    (shown : clockShown answer = .error cause) :
    (∀ time rest, ¬ Heard endpoint.unitId n [.clock layout.readCount time] s.unread rest) ∧
      after.2 = sent ++ [framed (n + 1) endpoint.unitId (readRequest layout.readAddress layout.readCount)] := by
  constructor
  · intro time rest heard
    have fits : ∃ answer', Takes stream now (⟨endpoint, some s, n⟩, sent) _ (.reading layout answer') ∧
        clockShown answer' = .ok time := (shows_iff legal).mpr ⟨rest, heard, rfl⟩
    obtain ⟨answer', h', shown'⟩ := fits
    obtain ⟨rfl, -⟩ := Prod.mk.inj (h.symm.trans h')
    rw [shown] at shown'
    cases shown'
  · obtain ⟨got, -, taken⟩ := takes_read legal
    rw [(taken.mp h).2]

theorem refused {address : UInt16} {values : List UInt16} {cause : Fault} (legal : (Request.write address values).Legal)
    (h : Takes stream now (⟨endpoint, some s, n⟩, sent) after (.write address values (.error cause))) :
    (∀ rest, ¬ Heard endpoint.unitId n [.echo address (UInt16.ofNat values.length)] s.unread rest) ∧
      after.2 = sent ++ [framed (n + 1) endpoint.unitId (writeRequest address values)] := by
  constructor
  · intro rest heard
    have h' : Takes stream now (⟨endpoint, some s, n⟩, sent) _ (.write address values (.ok ())) :=
      (accepted_iff legal).mpr ⟨rest, heard, rfl⟩
    cases h.symm.trans h'
  · obtain ⟨got, -, taken⟩ := takes_write legal
    rw [(taken.mp h).2]

/-- The steps that an exchange takes one after the other. -/
def Plays (stream : Stream) (now : Instant) (before : Client Stream × List (List UInt8)) (steps : List Step)
    (after : Client Stream × List (List UInt8)) : Prop :=
  (Runner.stacked _ _).Plays (Client.transport (saying stream)) (standing now) before steps after

theorem epoch_legal (address : UInt16) (time : DeviceTime) : (Request.write address time.epochRegisters).Legal :=
  ⟨Nat.succ_ne_zero 1, Nat.le_of_ble_eq_true rfl⟩

theorem milliseconds_legal (address : UInt16) (time : DeviceTime) :
    (Request.write address [time.milliseconds]).Legal :=
  ⟨Nat.succ_ne_zero 0, Nat.le_of_ble_eq_true rfl⟩

theorem heard_of_written {time : DeviceTime} {writes : List Step} (written : Writing layout time writes (.ok ()))
    (played : Plays stream now (⟨endpoint, some s, n⟩, sent) writes after) :
    ∃ rest, Heard endpoint.unitId n (echoes layout) s.unread rest ∧
      after = (⟨endpoint, some { s with unread := rest }, n + UInt16.ofNat (echoes layout).length⟩,
        sent ++ numberedFrames endpoint.unitId n (writePdus layout time)) := by
  cases written with
  | epochAlone off =>
    obtain ⟨s₁, taken, rfl⟩ := played
    obtain ⟨rest, heard, rfl⟩ := (accepted_iff (epoch_legal _ _)).mp taken
    simp only [echoes, writePdus, off]
    exact ⟨rest, heard, rfl⟩
  | both on =>
    obtain ⟨s₁, taken, s₂, takenMs, rfl⟩ := played
    obtain ⟨more, heard, rfl⟩ := (accepted_iff (epoch_legal _ _)).mp taken
    obtain ⟨rest, heardMs, rfl⟩ := (accepted_iff (milliseconds_legal _ _)).mp takenMs
    simp only [echoes, writePdus, on]
    refine ⟨rest, heard_append.mpr ⟨more, heard, heardMs⟩, ?_⟩
    simp [numberedFrames, UInt16.add_assoc]

/-- A writing that is refused stops at the first echo that is not in place. -/
theorem unheard_of_refused {time : DeviceTime} {writes : List Step} {failure : Failure}
    (written : Writing layout time writes (.error failure))
    (played : Plays stream now (⟨endpoint, some s, n⟩, sent) writes after) :
    ∃ k < (echoes layout).length, (∃ rest, Heard endpoint.unitId n ((echoes layout).take k) s.unread rest) ∧
      (∀ rest, ¬ Heard endpoint.unitId n ((echoes layout).take (k + 1)) s.unread rest) ∧
      after.2 = sent ++ (numberedFrames endpoint.unitId n (writePdus layout time)).take (k + 1) := by
  cases written with
  | epochRefused cause =>
    obtain ⟨s₁, taken, rfl⟩ := played
    obtain ⟨unheard, frames⟩ := refused (epoch_legal _ _) taken
    exact ⟨0, Nat.succ_pos _, ⟨s.unread, rfl⟩, unheard, frames⟩
  | millisecondsRefused on cause =>
    obtain ⟨s₁, taken, s₂, takenMs, rfl⟩ := played
    obtain ⟨more, heard, rfl⟩ := (accepted_iff (epoch_legal _ _)).mp taken
    obtain ⟨unheard, frames⟩ := refused (milliseconds_legal _ _) takenMs
    simp only [echoes, writePdus, on, if_true]
    exact ⟨1, Nat.le.refl, ⟨more, heard⟩, heard.not_append unheard, frames.trans (List.append_assoc _ _ _)⟩

/-! ### What it comes to -/

/-- What an exchange comes to, by the number of replies that are in place. -/
inductive Upshot (layout : RegisterMap) (unitId : UInt8) (host : DeviceTime) (bytes : List UInt8) : Outcome → Nat → Prop
  | unread (failure : Failure) (missing : ∀ time, ¬ BeginsWith unitId [.clock layout.readCount time] bytes) :
      Upshot layout unitId host bytes (.failed none none failure) 0
  | unwritten {before : DeviceTime} (failure : Failure) {k : Nat} (few : k < (echoes layout).length)
      (heard : BeginsWith unitId (.clock layout.readCount before :: (echoes layout).take k) bytes)
      (missing : ¬ BeginsWith unitId (.clock layout.readCount before :: (echoes layout).take (k + 1)) bytes) :
      Upshot layout unitId host bytes (.failed (some before) (some host) failure) (k + 1)
  | unverified {before : DeviceTime} (warning : Failure)
      (heard : BeginsWith unitId (.clock layout.readCount before :: echoes layout) bytes)
      (missing : ∀ after, ¬ BeginsWith unitId (dues layout before after) bytes) :
      Upshot layout unitId host bytes (.unverified before host warning) ((echoes layout).length + 1)
  | synced {before after : DeviceTime} (heard : BeginsWith unitId (dues layout before after) bytes) :
      Upshot layout unitId host bytes (.synced before host after) ((echoes layout).length + 1)

theorem settled {settle : Duration} {before after : Client Stream × List (List UInt8)}
    (played : Plays stream now before (settling settle) after) : before = after := by
  unfold settling at played
  split at played
  · exact played
  · obtain ⟨s₁, paused, rfl⟩ := played
    exact (Prod.mk.inj paused).2

theorem heard_of_asked {answer : Except Fault (List UInt16)} {before : DeviceTime} {moment : Instant}
    (legal : (Request.read layout.readAddress layout.readCount).Legal) (shown : clockShown answer = .ok before)
    (played : Plays stream now (⟨endpoint, some s, n⟩, sent) [.reading layout answer, .now moment] after) :
    moment = now ∧ ∃ rest, Heard endpoint.unitId n [.clock layout.readCount before] s.unread rest ∧
      after = (⟨endpoint, some { s with unread := rest }, n + 1⟩,
        sent ++ [framed (n + 1) endpoint.unitId (readRequest layout.readAddress layout.readCount)]) := by
  obtain ⟨s₁, taken, s₂, read, rfl⟩ := played
  obtain ⟨same, rfl⟩ := Prod.mk.inj read
  exact ⟨same.symm, (shows_iff legal).mp ⟨answer, taken, shown⟩⟩

theorem heard_of_told {answer : Except Fault (List UInt16)} {before : DeviceTime} {moment : Instant}
    {writes : List Step} {settle : Duration}
    (legal : (Request.read layout.readAddress layout.readCount).Legal) (shown : clockShown answer = .ok before)
    (written : Writing layout (.ofInstant moment) writes (.ok ()))
    (played : Plays stream now (⟨endpoint, some s, 0⟩, [])
      ([.reading layout answer, .now moment] ++ writes ++ settling settle) after) :
    moment = now ∧ ∃ rest, Heard endpoint.unitId 0 (.clock layout.readCount before :: echoes layout) s.unread rest ∧
      after = (⟨endpoint, some { s with unread := rest }, 0 + UInt16.ofNat ((echoes layout).length + 1)⟩,
        (numberedFrames endpoint.unitId 0 (requestPdus layout (.ofInstant now))).take ((echoes layout).length + 1)) := by
  obtain ⟨s₂, told, waited⟩ := Runner.plays_append.mp played
  obtain rfl := settled waited
  obtain ⟨s₁, asked, played⟩ := Runner.plays_append.mp told
  obtain ⟨rfl, more, heard, rfl⟩ := heard_of_asked legal shown asked
  obtain ⟨rest, echoed, rfl⟩ := heard_of_written written played
  refine ⟨rfl, rest, heard_append.mpr ⟨more, heard, echoed⟩, ?_⟩
  rw [take_requestPdus Nat.le.refl, List.take_of_length_le (Nat.le_of_eq (numberedFrames_writePdus_length ..)),
    ← add_ofNat_succ]
  rfl

theorem take_all_requestPdus {unitId : UInt8} {host : DeviceTime} :
    (numberedFrames unitId 0 (requestPdus layout host)).take ((echoes layout).length + 1) ++
        [framed (0 + UInt16.ofNat ((echoes layout).length + 1) + 1) unitId
          (readRequest layout.readAddress layout.readCount)] =
      (numberedFrames unitId 0 (requestPdus layout host)).take ((echoes layout).length + 1 + 1) := by
  have whole : (numberedFrames unitId 0 (requestPdus layout host)).length = (echoes layout).length + 1 + 1 := by
    rw [numberedFrames_length, requestPdus, List.length_cons, List.length_append, writePdus_length]
    rfl
  rw [take_requestPdus Nat.le.refl, List.take_of_length_le (Nat.le_of_eq (numberedFrames_writePdus_length ..)),
    List.take_of_length_le (Nat.le_of_eq whole), requestPdus, numberedFrames, numberedFrames_append, writePdus_length,
    ← add_ofNat_succ]
  rfl

theorem hung_up {before after : Client Stream × List (List UInt8)} (h : Takes stream now before after .close) :
    after.2 = before.2 := by
  obtain ⟨-, rfl⟩ := Prod.mk.inj h
  rcases before with ⟨⟨endpoint, _ | s, n⟩, sent⟩ <;> rfl

theorem upshot_of_course {settings : Settings} {steps : List Step} {outcome : Outcome}
    (legal : (Request.read settings.registers.readAddress settings.registers.readCount).Legal)
    (course : Course settings steps outcome) (played : Plays stream now (⟨endpoint, some s, 0⟩, []) steps after) :
    ∃ k, Upshot settings.registers endpoint.unitId (.ofInstant now) s.unread outcome k ∧
      after.2 = (numberedFrames endpoint.unitId 0 (requestPdus settings.registers (.ofInstant now))).take (k + 1) := by
  cases course with
  | unread shown =>
    obtain ⟨s₁, taken, rfl⟩ := played
    obtain ⟨unheard, frames⟩ := unshown legal taken shown
    exact ⟨0, .unread _ fun time ⟨rest, heard⟩ => unheard time rest heard, frames⟩
  | unwritten shown written =>
    obtain ⟨s₁, asked, played⟩ := Runner.plays_append.mp played
    obtain ⟨rfl, more, heard, rfl⟩ := heard_of_asked legal shown asked
    obtain ⟨k, few, ⟨rest, echoed⟩, unheard, frames⟩ := unheard_of_refused written played
    refine ⟨k + 1, .unwritten _ few ⟨rest, heard_append.mpr ⟨more, heard, echoed⟩⟩ ?_, ?_⟩
    · rintro ⟨rest', further⟩
      exact heard.not_append unheard rest' further
    · rw [frames, take_requestPdus few]
      rfl
  | unverified shown written shownBack =>
    obtain ⟨s₁, told, back⟩ := Runner.plays_append.mp played
    obtain ⟨rfl, more, heard, rfl⟩ := heard_of_told legal shown written told
    obtain ⟨unheard, frames⟩ := unshown legal (Runner.plays_singleton.mp back) shownBack
    refine ⟨_, .unverified _ ⟨more, heard⟩ ?_, frames.trans take_all_requestPdus⟩
    rintro time ⟨rest, whole⟩
    exact heard.not_append (unheard time) rest whole
  | synced shown written shownBack =>
    obtain ⟨s₁, told, back⟩ := Runner.plays_append.mp played
    obtain ⟨rfl, more, heard, rfl⟩ := heard_of_told legal shown written told
    obtain ⟨rest, last, rfl⟩ := (shows_iff legal).mp ⟨_, Runner.plays_singleton.mp back, shownBack⟩
    exact ⟨_, .synced ⟨rest, heard_append.mpr ⟨more, heard, last⟩⟩, take_all_requestPdus⟩

theorem readCount_legal {settings : Settings} (valid : settings.defect? = none) :
    (Request.read settings.registers.readAddress settings.registers.readCount).Legal := by
  obtain ⟨few, many⟩ := (Settings.defect?_eq_none_iff.mp valid).readCount_toNat
  exact ⟨Nat.ne_zero_of_lt few, many⟩

theorem exists_upshot {settings : Settings} (valid : settings.defect? = none) (target : Target) (now : Instant)
    (stream : Stream) :
    ∃ k, Upshot settings.registers (Endpoint.ofTarget settings target).unitId (.ofInstant now) stream.unread
        (exchangeOver settings target now stream).1 k ∧
      (exchangeOver settings target now stream).2 =
        (numberedFrames (Endpoint.ofTarget settings target).unitId 0
          (requestPdus settings.registers (.ofInstant now))).take (k + 1) := by
  obtain ⟨steps, outcome, last, talk, played⟩ := Runner.exists_conversation (Runner.stacked _ _)
    (Client.transport (saying stream)) (standing now) ({ endpoint := .ofTarget settings target }, []) settings
  have run := Runner.run_exchange talk played
  rw [show exchangeOver settings target now stream = (outcome, last.2) from
    congrArg (fun result => (result.1, result.2.2)) run]
  cases talk with
  | unconnected cause =>
    obtain ⟨s₁, refused, -⟩ := played
    cases (Prod.mk.inj refused).1
  | connected course =>
    obtain ⟨s₂, ⟨s₁, opened, played⟩, closed⟩ := Runner.plays_append.mp played
    obtain ⟨-, rfl⟩ := Prod.mk.inj opened
    rw [hung_up (Runner.plays_singleton.mp closed)]
    exact upshot_of_course (readCount_legal valid) course played

end

namespace Upshot

variable {layout : RegisterMap} {unitId : UInt8} {host : DeviceTime} {bytes : List UInt8} {outcome : Outcome} {k : Nat}

theorem synced_iff (u : Upshot layout unitId host bytes outcome k)
    (small : layout.readCount.toNat ≤ maxReadRegisters) (before taken after : DeviceTime) :
    outcome = .synced before taken after ↔ taken = host ∧ BeginsWith unitId (dues layout before after) bytes := by
  constructor
  · rintro rfl
    cases u with
    | synced heard => exact ⟨rfl, heard⟩
  · rintro ⟨rfl, whole⟩
    cases u with
    | unread failure missing => exact absurd (whole.take 1) (missing before)
    | @unwritten _ failure k few heard missing =>
      obtain rfl := whole.clock_unique small heard
      have further := whole.take (k + 1 + 1)
      rw [take_dues few] at further
      exact absurd further missing
    | unverified warning heard missing =>
      obtain rfl := whole.clock_unique small heard
      exact absurd whole (missing after)
    | synced heard =>
      obtain ⟨rfl, rfl⟩ := dues_unique small whole heard
      rfl

theorem isWritten_iff (u : Upshot layout unitId host bytes outcome k)
    (small : layout.readCount.toNat ≤ maxReadRegisters) :
    outcome.isWritten = true ↔ ∃ before, BeginsWith unitId (.clock layout.readCount before :: echoes layout) bytes := by
  constructor
  · intro written
    cases u with
    | unread failure missing => cases written
    | unwritten failure few heard missing => cases written
    | unverified warning heard missing => exact ⟨_, heard⟩
    | synced heard =>
      rw [dues_eq_append] at heard
      exact ⟨_, heard.left⟩
  · rintro ⟨before, echoed⟩
    cases u with
    | unread failure missing => exact absurd (echoed.take 1) (missing before)
    | @unwritten _ failure k few heard missing =>
      obtain rfl := echoed.clock_unique small heard
      exact absurd (echoed.take (k + 1 + 1)) missing
    | unverified warning heard missing => rfl
    | synced heard => rfl

theorem inPlace (u : Upshot layout unitId host bytes outcome k) (small : layout.readCount.toNat ≤ maxReadRegisters) :
    InPlace layout unitId bytes k ∧ (k + 1 < (dues layout host host).length → ¬ InPlace layout unitId bytes (k + 1)) := by
  cases u with
  | unread failure missing =>
    refine ⟨⟨default, default, beginsWith_nil⟩, ?_⟩
    rintro - ⟨before, after, heard⟩
    exact missing before heard
  | @unwritten before failure k few heard missing =>
    refine ⟨⟨before, default, ?_⟩, ?_⟩
    · rw [take_dues (Nat.le_of_lt few)]
      exact heard
    · rintro - ⟨before', after', further⟩
      rw [take_dues few] at further
      obtain rfl := further.clock_unique small heard
      exact missing further
  | @unverified before warning heard missing =>
    refine ⟨⟨before, default, ?_⟩, ?_⟩
    · rw [take_dues Nat.le.refl, List.take_length]
      exact heard
    · rintro - ⟨before', after', further⟩
      rw [← dues_length layout before' after', List.take_length] at further
      obtain rfl := further.clock_unique small heard
      exact missing after' further
  | @synced before after heard =>
    refine ⟨⟨before, after, heard.take _⟩, ?_⟩
    intro more
    rw [dues_length] at more
    exact absurd more (Nat.lt_irrefl _)

end Upshot

end OverStream

/-- An exchange over a stream succeeds just if the stream begins with the replies to all of its requests, and writes the
    clock just if it begins with all of them but the last. It goes on sending as long as the replies are in place. -/
theorem exchangeOver_decided_by_stream {settings : Settings} (valid : settings.defect? = none) (target : Target)
    (now : Instant) (stream : Stream) :
    let layout := settings.registers
    let unitId := if settings.applyUnitId then target.unitId else defaultUnit
    let host := DeviceTime.ofInstant now
    let exchanged := exchangeOver settings target now stream
    (∀ before taken after, exchanged.1 = .synced before taken after ↔
      taken = host ∧ BeginsWith unitId (dues layout before after) stream.unread) ∧
    (exchanged.1.isWritten = true ↔
      ∃ before, BeginsWith unitId (.clock layout.readCount before :: echoes layout) stream.unread) ∧
    ∃ k, exchanged.2 = (numberedFrames unitId 0 (requestPdus layout host)).take (k + 1) ∧
      InPlace layout unitId stream.unread k ∧
      (k + 1 < (requestPdus layout host).length → ¬ InPlace layout unitId stream.unread (k + 1)) := by
  obtain ⟨k, upshot, sent⟩ := OverStream.exists_upshot valid target now stream
  have small := (OverStream.readCount_legal valid).2
  refine ⟨upshot.synced_iff small, upshot.isWritten_iff small, k, sent, ?_⟩
  have whole : (requestPdus settings.registers (.ofInstant now)).length =
      (dues settings.registers (.ofInstant now) (.ofInstant now)).length := by
    rw [dues_length, requestPdus, List.length_cons, List.length_append, writePdus_length]
    rfl
  rw [whole]
  exact upshot.inPlace small

/-- The replies of a reference device to a whole exchange, on a stream that ends behind them. -/
def referenceStream : Stream where
  unread :=
    [0, 1, 0, 0, 0, 9, 1, 4, 6, 0, 1, 0, 2, 0, 3] ++ [0, 2, 0, 0, 0, 6, 1, 16, 1, 34, 0, 2] ++
      [0, 3, 0, 0, 0, 9, 1, 4, 6, 47, 20, 138, 0, 3, 231]
  ended := true

theorem exchangeOver_referenceStream :
    Settings.standard.defect? = none ∧
      (exchangeOver .standard { host := "192.168.7.2" } ⟨1736748928, 5000000, by decide, by decide⟩ referenceStream).1 =
        .synced ⟨65538, 3⟩ ⟨790064128, 5⟩ ⟨789875200, 999⟩ := by
  refine ⟨by decide, ((exchangeOver_decided_by_stream (by decide) _ _ _).1 _ _ _).mpr ⟨by decide, ?_⟩⟩
  refine ⟨[], ⟨⟨1, 0, 9, 1⟩, [4, 6, 0, 1, 0, 2, 0, 3], rfl, by decide, by decide⟩, _, rfl, ⟨rfl, rfl, rfl⟩, ?_, ?_⟩
  · exact ⟨[1, 2, 3], rfl, ⟨[], rfl⟩, ⟨[], rfl⟩, by decide⟩
  refine ⟨⟨⟨2, 0, 6, 1⟩, [16, 1, 34, 0, 2], rfl, by decide, by decide⟩, _, rfl, ⟨rfl, rfl, rfl⟩, ⟨[], rfl⟩, ?_⟩
  refine ⟨⟨⟨3, 0, 9, 1⟩, [4, 6, 47, 20, 138, 0, 3, 231], rfl, by decide, by decide⟩, [], rfl, ⟨rfl, rfl, rfl⟩, ?_, rfl⟩
  exact ⟨[12052, 35328, 999], rfl, ⟨[], rfl⟩, ⟨[], rfl⟩, by decide⟩

end FieldClock
