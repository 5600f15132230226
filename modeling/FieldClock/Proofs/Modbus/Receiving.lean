import FieldClock.Modbus.Client
import FieldClock.Modbus.Peer
import FieldClock.Proofs.Modbus.Reply
import FieldClock.Proofs.Requests

/-!
# Requests on a stream

What a client makes of the bytes that a peer has sent. How a reply is received is told by rules, one for each way it can go,
and a request is shown to follow them on every wire that carries one stream of bytes to the client.
-/

namespace FieldClock.Modbus

/-- Puts an answer behind the bytes that have come; nothing comes behind an end. -/
def Stream.extend (s : Stream) (reply : Reply) : Stream :=
  if s.ended then s else ⟨s.unread ++ reply.bytes, reply.ends⟩

theorem Stream.extend_nothing (s : Stream) : s.extend ⟨[], false⟩ = s := by
  rcases s with ⟨unread, _ | _⟩ <;> simp [Stream.extend]

/-- Why bytes that have not come are not waited for any longer. -/
def Stream.fault (s : Stream) : IoFault := if s.ended then .ended else .silent

/-- The wire to a peer that takes every connection and every request. What it answers, from a state of its own, comes on the
    stream. -/
def answering {π : Type} (opened : Stream) (answer : List UInt8 → StateM π Reply) : Wire (StateM π) Stream where
  dial _ := pure (.ok opened)
  send stream request := do return .ok (stream.extend (← answer request))
  receive stream count := pure (stream.receive count)
  hangUp _ := pure ()

/-! ### Receiving -/

/-- What becomes of the reply that a client awaits on a stream. -/
inductive Received (c : Client Stream) (s : Stream) : Except Fault (List UInt8) × Client Stream → Prop
  | noHeader (short : s.unread.length < Header.size) :
      Received c s (.error (.receiveHeader s.fault), { c with connection := none })
  | refused {header : Header} {rest : List UInt8} {cause : Fault} (arrived : s.unread = header.bytes ++ rest)
      (fails : header.check c.transactionId c.endpoint.unitId = .error cause) :
      Received c s (.error cause, { c with connection := some { s with unread := rest } })
  | noPdu {header : Header} {rest : List UInt8} {n : Nat} (arrived : s.unread = header.bytes ++ rest)
      (passes : header.check c.transactionId c.endpoint.unitId = .ok n) (short : rest.length < n) :
      Received c s (.error (.receivePdu s.fault), { c with connection := none })
  | whole {frame : Frame} {rest : List UInt8} (arrived : s.unread = frame.bytes ++ rest)
      (answers : frame.header.Answers c.transactionId c.endpoint.unitId) :
      Received c s (checkException frame.pdu, { c with connection := some { s with unread := rest } })

section
variable {π : Type} {opened : Stream} {answer : List UInt8 → StateM π Reply} {c : Client Stream} {s : Stream}

theorem Stream.receive_append {first rest : List UInt8} (arrived : s.unread = first ++ rest) :
    s.receive first.length = .ok (first, { s with unread := rest }) := by
  rw [Stream.receive, if_pos (by rw [arrived, List.length_append]; omega), arrived, List.take_left, List.drop_left]

theorem Stream.receive_short {n : Nat} (short : s.unread.length < n) : s.receive n = .error s.fault := by
  rw [Stream.receive, if_neg (by omega), Stream.fault]

/-- A header that passes the check is that of a whole frame, if the rest of the frame has come. -/
theorem exists_frame {header : Header} {rest : List UInt8} {transactionId : UInt16} {unitId : UInt8} {n : Nat}
    (passes : header.check transactionId unitId = .ok n) (enough : n ≤ rest.length) :
    ∃ (frame : Frame) (more : List UInt8), header.bytes ++ rest = frame.bytes ++ more ∧ frame.header = header ∧
      frame.header.Answers transactionId unitId ∧ frame.pdu.length = n := by
  obtain ⟨answers, hlen, hpos, hmax⟩ := Header.check_eq_ok_iff.mp passes
  have htake : (rest.take n).length = n := by
    rw [List.length_take]
    omega
  refine ⟨⟨header, rest.take n, by omega, by omega, by omega⟩, rest.drop n, ?_, rfl, answers, htake⟩
  rw [Frame.bytes, List.append_assoc, List.take_append_drop]

theorem Frame.check (frame : Frame) {transactionId : UInt16} {unitId : UInt8}
    (answers : frame.header.Answers transactionId unitId) :
    frame.header.check transactionId unitId = .ok frame.pdu.length :=
  Header.check_eq_ok_iff.mpr ⟨answers, frame.length_eq, frame.pdu_pos, frame.pdu_le⟩

/-- Each way that a reply can go is one of the rules. -/
theorem exists_received (c : Client Stream) (s : Stream) : ∃ got, Received c s got := by
  by_cases short : s.unread.length < Header.size
  · exact ⟨_, .noHeader short⟩
  obtain ⟨header, rest, arrived⟩ := Header.exists_bytes (Nat.le_of_not_lt short)
  rcases check : header.check c.transactionId c.endpoint.unitId with cause | n
  · exact ⟨_, .refused arrived check⟩
  by_cases missing : rest.length < n
  · exact ⟨_, .noPdu arrived check missing⟩
  obtain ⟨frame, more, same, -, answers, -⟩ := exists_frame check (Nat.le_of_not_lt missing)
  exact ⟨_, .whole (arrived.trans same) answers⟩

theorem receiveReply_of_header {header : Header} {rest : List UInt8} (arrived : s.unread = header.bytes ++ rest) (p : π) :
    (Client.receiveReply (answering opened answer) s c).run p =
      match header.check c.transactionId c.endpoint.unitId with
      | .error cause => ((.error cause, { c with connection := some { s with unread := rest } }), p)
      | .ok n => (Client.receivePdu (answering opened answer) { s with unread := rest } c n).run p := by
  have taken : s.receive Header.size = .ok (header.bytes, { s with unread := rest }) := Stream.receive_append arrived
  have parsed : (Header.ofBytes header.bytes >>= (·.check c.transactionId c.endpoint.unitId)) =
      header.check c.transactionId c.endpoint.unitId := by
    rw [Header.ofBytes_bytes]
    rfl
  simp only [Client.receiveReply, answering, taken, pure_bind, parsed]
  rcases header.check c.transactionId c.endpoint.unitId with cause | n <;> rfl

/-- The rules determine what a client receives. -/
theorem run_receiveReply {got : Except Fault (List UInt8) × Client Stream} (h : Received c s got) (p : π) :
    (Client.receiveReply (answering opened answer) s c).run p = (got, p) := by
  cases h with
  | noHeader short =>
    simp only [Client.receiveReply, answering, Stream.receive_short short]
    rfl
  | refused arrived fails => rw [receiveReply_of_header arrived, fails]
  | @noPdu header rest n arrived passes short =>
    rw [receiveReply_of_header arrived, passes]
    have missing : ({ s with unread := rest } : Stream).receive n = .error s.fault := Stream.receive_short short
    simp only [Client.receivePdu, answering, missing]
    rfl
  | @whole frame rest arrived answers =>
    rw [Frame.bytes, List.append_assoc] at arrived
    rw [receiveReply_of_header arrived, frame.check answers]
    have taken : ({ s with unread := frame.pdu ++ rest } : Stream).receive frame.pdu.length =
        .ok (frame.pdu, { s with unread := rest }) := Stream.receive_append rfl
    simp only [Client.receivePdu, answering, taken]
    rfl

theorem Received.unique {got got' : Except Fault (List UInt8) × Client Stream} (h : Received c s got)
    (h' : Received c s got') : got = got' := by
  have run : (Client.receiveReply (answering s fun _ => pure ⟨[], false⟩) s c).run () = (got, ()) :=
    run_receiveReply h ()
  rw [run_receiveReply h' ()] at run
  exact (congrArg Prod.fst run).symm

/-- What is made of a reply comes from a whole frame, and the client goes on behind this frame. -/
theorem Received.bind_eq_ok_iff {α : Type} {got : Except Fault (List UInt8) × Client Stream} (h : Received c s got)
    {next : List UInt8 → Except Fault α} {a : α} {c' : Client Stream} :
    (got.1 >>= next) = .ok a ∧ got.2 = c' ↔
      ∃ (frame : Frame) (rest : List UInt8), s.unread = frame.bytes ++ rest ∧
        frame.header.Answers c.transactionId c.endpoint.unitId ∧ (checkException frame.pdu >>= next) = .ok a ∧
        c' = { c with connection := some { s with unread := rest } } := by
  constructor
  · rintro ⟨ok, rfl⟩
    cases h with
    | noHeader short => cases ok
    | refused arrived fails => cases ok
    | noPdu arrived passes short => cases ok
    | whole arrived answers => exact ⟨_, _, arrived, answers, ok, rfl⟩
  · rintro ⟨frame, rest, arrived, answers, ok, rfl⟩
    obtain rfl := h.unique (.whole arrived answers)
    exact ⟨ok, rfl⟩

theorem Client.answer_eq_ok_iff {α : Type} {reply : Except Fault α} {a : α} : Client.answer reply = .ok a ↔ reply = .ok a := by
  rcases reply with cause | b <;> simp [Client.answer, Client.failed]

/-! ### Requests -/

/-- A client that has given its next request a number. -/
def Client.numbered (c : Client Stream) : Client Stream := { c with transactionId := c.transactionId + 1 }

/-- The frame that a client sends next, around a PDU. -/
def Client.nextFrame (c : Client Stream) (pdu : List UInt8) : List UInt8 :=
  framed (c.transactionId + 1) c.endpoint.unitId pdu

theorem run_request_unconnected {pdu : List UInt8} (unconnected : c.connection = none) (p : π) :
    (Client.request (answering opened answer) pdu c).run p = ((.error .notConnected, c), p) := by
  rw [Client.request, unconnected]
  rfl

theorem run_request {pdu : List UInt8} {p p' : π} {reply : Reply} {got : Except Fault (List UInt8) × Client Stream}
    (connected : c.connection = some s) (answered : (answer (c.nextFrame pdu)).run p = (reply, p'))
    (received : Received c.numbered (s.extend reply) got) :
    (Client.request (answering opened answer) pdu c).run p = (got, p') := by
  have sent : ((answering opened answer).send s (c.nextFrame pdu)).run p = (.ok (s.extend reply), p') := by
    show (do return .ok (s.extend (← answer (c.nextFrame pdu))) : StateM π (Except IoFault Stream)).run p = _
    rw [StateT.run_bind, answered]
    rfl
  rw [Client.request, connected]
  show ((answering opened answer).send s (c.nextFrame pdu) >>= _).run p = _
  rw [StateT.run_bind, sent]
  exact run_receiveReply received p'

end

section
variable {π κ : Type} {wire : Wire (StateM π) κ} {c c' : Client κ} {p p' : π}

theorem run_read {address quantity : UInt16} {got : Except Fault (List UInt8)} (some : quantity.toNat ≠ 0)
    (small : quantity.toNat ≤ maxReadRegisters)
    (asked : (Client.request wire (readRequest address quantity) c).run p = ((got, c'), p')) :
    (Client.read wire address quantity c).run p = ((Client.answer (got >>= readReply quantity), c'), p') := by
  rw [Client.read, if_neg (by omega), StateT.run_bind, asked]
  rfl

theorem run_write {address : UInt16} {values : List UInt16} {got : Except Fault (List UInt8)} (some : values.length ≠ 0)
    (small : values.length ≤ maxWriteRegisters)
    (asked : (Client.request wire (writeRequest address values) c).run p = ((got, c'), p')) :
    (Client.write wire address values c).run p =
      ((Client.answer (got >>= writeReply address (UInt16.ofNat values.length)), c'), p') := by
  rw [Client.write, if_neg (by omega), StateT.run_bind, asked]
  rfl

end

end FieldClock.Modbus

namespace FieldClock.Request

open Modbus

/-- Whether one frame can carry the registers of a request. -/
def Legal : Request → Prop
  | .read _ quantity => quantity.toNat ≠ 0 ∧ quantity.toNat ≤ maxReadRegisters
  | .write _ values => values.length ≠ 0 ∧ values.length ≤ maxWriteRegisters

instance : DecidablePred Legal
  | .read _ _ => inferInstanceAs (Decidable (_ ∧ _))
  | .write _ _ => inferInstanceAs (Decidable (_ ∧ _))

/-- The number of registers of a request. -/
def count : Request → Nat
  | .read _ quantity => quantity.toNat
  | .write _ values => values.length

/-- The PDU of a request. -/
def pdu : Request → List UInt8
  | .read address quantity => readRequest address quantity
  | .write address values => writeRequest address values

theorem pdu_length_le {request : Request} (legal : request.Legal) : request.pdu.length ≤ Header.maxPdu := by
  cases request with
  | read address quantity => exact Nat.le_of_ble_eq_true rfl
  | write address values =>
    obtain ⟨-, small⟩ := legal
    unfold maxWriteRegisters at small
    have length : (pdu (.write address values)).length = 6 + values.length * 2 := by
      simp only [pdu, writeRequest, wordBytes, List.length_append, List.length_cons, List.length_nil,
        flatMap_wordBytes_length]
      omega
    rw [length, Header.maxPdu]
    omega

/-- What a reply that is no exception says to a request. -/
def accept : Request → List UInt8 → Except Modbus.Fault (List UInt16)
  | .read _ quantity, reply => readReply quantity reply
  | .write address values, reply => (writeReply address (UInt16.ofNat values.length) reply).map fun _ => []

section
variable {π κ : Type} {wire : Wire (StateM π) κ} {c c' : Client κ} {p p' : π}

/-- A request that no frame can carry leaves everything as it is. -/
theorem run_perform_illegal {request : Request} (illegal : ¬ request.Legal) :
    ((request.perform (Client.transport wire)).run c).run p =
      ((Client.failed (.registerCount request.count), c), p) := by
  cases request with
  | read address quantity =>
    show StateT.run (Client.read wire address quantity c) p = _
    rw [Client.read, if_pos (by unfold Legal at illegal; omega)]
    rfl
  | write address values =>
    have refused : (Client.write wire address values c).run p = ((Client.failed (.registerCount values.length), c), p) := by
      rw [Client.write, if_pos (by unfold Legal at illegal; omega)]
      rfl
    simp only [perform, StateT.run_bind]
    rw [show ((Client.transport _).write address values).run c = Client.write _ address values c from rfl, refused]
    rfl

/-- The answer to a request is what its reply says, and the client is as the reply leaves it. -/
theorem run_perform {request : Request} {got : Except Modbus.Fault (List UInt8)} (legal : request.Legal)
    (asked : (Client.request wire request.pdu c).run p = ((got, c'), p')) :
    ((request.perform (Client.transport wire)).run c).run p = ((Client.answer (got >>= request.accept), c'), p') := by
  cases request with
  | read address quantity => exact run_read legal.1 legal.2 asked
  | write address values =>
    have written := run_write legal.1 legal.2 asked
    simp only [perform, StateT.run_bind]
    rw [show ((Client.transport _).write address values).run c = Client.write _ address values c from rfl, written]
    rcases got with cause | pdu
    · rfl
    · show ((((Client.answer (writeReply address _ pdu)).map fun _ => []), c'), p') =
        ((Client.answer ((writeReply address _ pdu).map fun _ => []), c'), p')
      rcases writeReply address (UInt16.ofNat values.length) pdu with cause | _ <;> rfl

end

end FieldClock.Request
