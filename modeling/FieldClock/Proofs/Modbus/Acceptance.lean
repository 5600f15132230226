import FieldClock.Proofs.Modbus.Memory

/-!
# Acceptance

Which bytes a connected client takes for the answer to its request, how many of them it takes, and that nothing else makes a
difference to its answer: neither its other fields nor what earlier replies have left in its memory.
-/

namespace FieldClock

open Modbus

/-- Whether a PDU answers a request with these registers. -/
def Request.Answered (values : List UInt16) : Request → List UInt8 → Prop
  | .read _ quantity, pdu => values.length = quantity.toNat ∧ ShowsRegisters values pdu
  | .write address written, pdu => values = [] ∧ Echoes address (UInt16.ofNat written.length) pdu

theorem Request.accept_eq_ok_iff {request : Request} {pdu : List UInt8} {values : List UInt16} (legal : request.Legal) :
    (checkException pdu >>= request.accept) = .ok values ↔ request.Answered values pdu := by
  cases request with
  | read address quantity => exact read_accepted_iff legal.2
  | write address written =>
    rw [Answered, ← write_accepted_iff, checkException_bind_eq_ok_iff, checkException_bind_eq_ok_iff, accept]
    rcases writeReply address (UInt16.ofNat written.length) pdu with cause | _
    · simp [Except.map]
    · simp [Except.map, and_comm, eq_comm]

namespace Modbus

/-! ### Faults in a PDU -/

/-- The faults that are found in the PDU of a reply. -/
inductive FoundInPdu : Fault → Prop
  | exception (cause : Exception) : FoundInPdu (.exception cause)
  | tooShort : FoundInPdu .responseTooShort
  | function (expected found : UInt8) : FoundInPdu (.functionMismatch expected found)
  | count (expected found : Nat) : FoundInPdu (.byteCount expected found)
  | missing (expected : Nat) : FoundInPdu (.missingData expected)
  | echo (foundAddress address foundQuantity quantity : UInt16) :
    FoundInPdu (.echoMismatch foundAddress address foundQuantity quantity)

theorem foundInPdu_of_readReply {quantity : UInt16} {pdu : List UInt8} {cause : Fault}
    (fails : readReply quantity pdu = .error cause) : FoundInPdu cause := by
  unfold readReply at fails
  split at fails
  · split at fails
    · cases fails
      exact .function _ _
    split at fails
    · cases fails
      exact .count _ _
    split at fails
    · cases fails
      exact .missing _
    · cases fails
  · cases fails
    exact .tooShort

theorem foundInPdu_of_writeReply {address quantity : UInt16} {pdu : List UInt8} {cause : Fault}
    (fails : writeReply address quantity pdu = .error cause) : FoundInPdu cause := by
  unfold writeReply at fails
  split at fails
  · split at fails
    · cases fails
      exact .function _ _
    split at fails
    · cases fails
      exact .echo _ _ _ _
    · cases fails
  · cases fails
    exact .tooShort

theorem foundInPdu_of_accept {request : Request} {pdu : List UInt8} {cause : Fault}
    (fails : (checkException pdu >>= request.accept) = .error cause) : FoundInPdu cause := by
  unfold checkException at fails
  split at fails
  · cases fails
    exact .exception _
  cases request with
  | read address quantity => exact foundInPdu_of_readReply fails
  | write address written =>
    have fails : (writeReply address (UInt16.ofNat written.length) pdu).map (fun _ => []) = .error cause := fails
    rcases checked : writeReply address (UInt16.ofNat written.length) pdu with cause' | _ <;> rw [checked] at fails
    · obtain rfl : cause' = cause := Except.error.inj fails
      exact foundInPdu_of_writeReply checked
    · cases fails

theorem not_foundInPdu_of_check {header : Header} {transactionId : UInt16} {unitId : UInt8} {cause : Fault}
    (fails : header.check transactionId unitId = .error cause) : ¬ FoundInPdu cause := by
  intro found
  unfold Header.check at fails
  split at fails
  · cases fails
    cases found
  split at fails
  · cases fails
    cases found
  split at fails
  · cases fails
    cases found
  split at fails
  · cases fails
    cases found
  · cases fails

/-! ### What has come -/

/-- What has come to a client begins with a whole frame that answers its last request. -/
structure Client.Answering (c : Client Stream) (came : Stream) (frame : Frame) (rest : List UInt8) : Prop where
  arrived : came.unread = frame.bytes ++ rest
  answers : frame.header.Answers c.transactionId c.endpoint.unitId

variable {c : Client Stream} {came : Stream} {got : Except Fault (List UInt8)} {c' : Client Stream}

theorem Received.accepted_iff {request : Request} {values : List UInt16} (received : Received c came (got, c'))
    (legal : request.Legal) :
    (got >>= request.accept) = .ok values ↔ ∃ frame rest, c.Answering came frame rest ∧ request.Answered values frame.pdu := by
  constructor
  · intro ok
    obtain ⟨frame, rest, arrived, answers, ok, -⟩ := received.bind_eq_ok_iff.mp ⟨ok, rfl⟩
    exact ⟨frame, rest, ⟨arrived, answers⟩, (Request.accept_eq_ok_iff legal).mp ok⟩
  · rintro ⟨frame, rest, ⟨arrived, answers⟩, answered⟩
    exact (received.bind_eq_ok_iff.mpr ⟨frame, rest, arrived, answers, (Request.accept_eq_ok_iff legal).mpr answered, rfl⟩).1

/-- Whether a client has answered a request or has found a fault in the PDU of the reply. -/
def Judged : Except FieldClock.Fault (List UInt16) → Prop
  | .ok _ => True
  | .error fault => ∃ cause, FoundInPdu cause ∧ fault = .fieldbus (.modbus cause)

theorem judged_answer {reply : Except Fault (List UInt16)} :
    Judged (Client.answer reply) ↔ ∀ cause, reply = .error cause → FoundInPdu cause := by
  rcases reply with cause | values <;> simp [Judged, Client.answer, Client.failed]

theorem Received.judged_iff {request : Request} (received : Received c came (got, c')) :
    Judged (Client.answer (got >>= request.accept)) ↔ ∃ frame rest, c.Answering came frame rest := by
  rw [judged_answer]
  constructor
  · intro judged
    cases received with
    | noHeader short => cases judged _ rfl
    | refused arrived fails => exact absurd (judged _ rfl) (not_foundInPdu_of_check fails)
    | noPdu arrived passes short => cases judged _ rfl
    | whole arrived answers => exact ⟨_, _, arrived, answers⟩
  · rintro ⟨frame, rest, arrived, answers⟩ cause fails
    obtain rfl := congrArg Prod.fst (received.unique (.whole arrived answers))
    exact foundInPdu_of_accept fails

theorem Received.left {frame : Frame} {rest : List UInt8} (received : Received c came (got, c'))
    (begins : c.Answering came frame rest) : c' = { c with connection := some { came with unread := rest } } :=
  congrArg Prod.snd (received.unique (.whole begins.arrived begins.answers))

/-- What a client receives depends on nothing but what has come and the number and the unit that it awaits. -/
theorem Received.of_same {other : Client Stream} (received : Received c came (got, c'))
    (number : other.transactionId = c.transactionId) (unit : other.endpoint.unitId = c.endpoint.unitId) :
    ∃ other', Received other came (got, other') := by
  cases received with
  | noHeader short => exact ⟨_, .noHeader short⟩
  | refused arrived fails => exact ⟨_, .refused arrived (by rw [number, unit]; exact fails)⟩
  | noPdu arrived passes short => exact ⟨_, .noPdu arrived (by rw [number, unit]; exact passes) short⟩
  | whole arrived answers => exact ⟨_, .whole arrived (by rw [number, unit]; exact answers)⟩

/-! ### Requests -/

theorem exact_answering {π : Type} (opened : Stream) (answer : List UInt8 → StateM π Reply) :
    Exact (answering opened answer) := by
  intro s count p bytes s' (received : s.receive count = .ok (bytes, s'))
  unfold Stream.receive at received
  split at received
  · obtain ⟨rfl, -⟩ := Prod.mk.inj (Except.ok.inj received)
    rw [List.length_take]
    omega
  · cases received

theorem exists_run_perform {π : Type} (opened : Stream) (answer : List UInt8 → StateM π Reply) {c : Client Stream} {s : Stream}
    {request : Request} (legal : request.Legal) (connected : c.connection = some s) (p : π) :
    ∃ got c', Received c.numbered (s.extend ((answer (c.nextFrame request.pdu)).run p).1) (got, c') ∧
      ((request.perform (Client.transport (answering opened answer))).run c).run p =
        ((Client.answer (got >>= request.accept), c'), ((answer (c.nextFrame request.pdu)).run p).2) := by
  obtain ⟨⟨got, c'⟩, received⟩ := exists_received c.numbered (s.extend ((answer (c.nextFrame request.pdu)).run p).1)
  exact ⟨got, c', received, Request.run_perform legal (run_request connected rfl received)⟩

/-- A connected client answers a legal request with these registers just if what has come begins with a whole frame that
    answers it. It judges a reply by its PDU just if such a frame has come; then it has taken this frame and nothing more, and
    keeps its connection. Its answer depends on what has come, its number and its unit alone. A client that receives in a
    memory never reaches out of it, and comes to the same whatever has been left there. -/
theorem acceptance_exact {π : Type} {opened : Stream} {answer : List UInt8 → StateM π Reply} {c c' : Client Stream}
    {s came : Stream} {request : Request} {got : Except FieldClock.Fault (List UInt16)} {p p' : π}
    (connected : c.connection = some s) (legal : request.Legal)
    (arrived : s.extend ((answer (c.nextFrame request.pdu)).run p).1 = came)
    (performed : ((request.perform (Client.transport (answering opened answer))).run c).run p = ((got, c'), p')) :
    (∀ values, got = .ok values ↔
      ∃ frame rest, c.numbered.Answering came frame rest ∧ request.Answered values frame.pdu) ∧
    (Judged got ↔ ∃ frame rest, c.numbered.Answering came frame rest) ∧
    (∀ frame rest, c.numbered.Answering came frame rest →
      c' = { c.numbered with connection := some { came with unread := rest } }) ∧
    (∀ {ρ : Type} {opened₂ : Stream} {answer₂ : List UInt8 → StateM ρ Reply} {c₂ : Client Stream} {s₂ : Stream} {p₂ : ρ},
      c₂.connection = some s₂ → c₂.transactionId = c.transactionId → c₂.endpoint.unitId = c.endpoint.unitId →
      s₂.extend ((answer₂ (c₂.nextFrame request.pdu)).run p₂).1 = came →
      (((request.perform (Client.transport (answering opened₂ answer₂))).run c₂).run p₂).1.1 = got) ∧
    ∀ spoil memory, ∃ memory',
      (((performAt (answering opened answer) spoil request c).run memory).run).run p = (some ((got, c'), memory'), p') := by
  obtain ⟨reply, c₁, received, run⟩ := exists_run_perform opened answer legal connected p
  rw [arrived] at received
  obtain ⟨same, -⟩ := Prod.mk.inj (run.symm.trans performed)
  obtain ⟨rfl, rfl⟩ := Prod.mk.inj same
  refine ⟨fun values => ?_, received.judged_iff, fun frame rest begins => received.left begins, ?_, fun spoil memory => ?_⟩
  · rw [Client.answer_eq_ok_iff]
    exact received.accepted_iff legal
  · intro ρ opened₂ answer₂ c₂ s₂ p₂ connected₂ number unit arrived₂
    obtain ⟨reply₂, c₂', received₂, run₂⟩ := exists_run_perform opened₂ answer₂ legal connected₂ p₂
    rw [arrived₂] at received₂
    obtain ⟨c₃, same⟩ := received.of_same (show c₂.numbered.transactionId = _ from congrArg (· + 1) number) unit
    obtain rfl := congrArg Prod.fst (received₂.unique same)
    rw [run₂]
  · have alike := alike_performAt spoil (exact_answering opened answer) c request memory p
    rwa [performed] at alike

/-- A reply with a byte behind its data, and the beginning of the next one. -/
def surplusReply (_ : List UInt8) : StateM Unit Reply :=
  pure ⟨[0, 0, 0, 0, 0, 6, 1, 4, 2, 0, 7, 9, 0, 1], false⟩

/-- The number of the request has run over. -/
theorem acceptance_exact_surplus :
    (⟨{}, some {}, 0xFFFF⟩ : Client Stream).connection = some {} ∧ (Request.read 3 1).Legal ∧
      (((Request.perform (Client.transport (answering {} surplusReply)) (.read 3 1)).run ⟨{}, some {}, 0xFFFF⟩).run ()).1.1 =
        .ok [7] := by
  have connected : (⟨{}, some {}, 0xFFFF⟩ : Client Stream).connection = some {} := rfl
  have legal : (Request.read 3 1).Legal := by decide
  have accepted := acceptance_exact connected legal rfl
    (show ((Request.perform (Client.transport (answering {} surplusReply)) (.read 3 1)).run _).run () = ((_, _), _) from rfl)
  exact ⟨connected, legal, (accepted.1 [7]).mpr
    ⟨⟨⟨0, 0, 6, 1⟩, [4, 2, 0, 7, 9], rfl, by decide, by decide⟩, [0, 1], ⟨rfl, ⟨rfl, rfl, rfl⟩⟩, rfl, [9], rfl⟩⟩

end Modbus

end FieldClock
