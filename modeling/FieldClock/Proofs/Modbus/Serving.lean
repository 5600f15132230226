import FieldClock.Proofs.Modbus.Receiving
import FieldClock.SimulatedClock

/-!
# A simulated device behind a wire

A server that performs each request it receives on a simulated device. A client of this server cannot tell it from the
device itself.
-/

namespace FieldClock.Modbus

/-! ### The server -/

/-- The request that a PDU asks for. -/
def requestOfPdu? : List UInt8 → Option Request
  | function :: a₁ :: a₂ :: q₁ :: q₂ :: data =>
    if function = readFunction then some (.read (wordOfBytes a₁ a₂) (wordOfBytes q₁ q₂))
    else if function = writeFunction then
      match data with
      | count :: values =>
        if count.toNat = (wordOfBytes q₁ q₂).toNat * 2 ∧ values.length = count.toNat then
          some (.write (wordOfBytes a₁ a₂) (wordsOfBytes values))
        else none
      | [] => none
    else none
  | _ => none

/-- The PDU that tells what came of a request. A read that failed is a device failure, a write that failed an illegal
    address. -/
def replyPdu : Request → Except FieldClock.Fault (List UInt16) → List UInt8
  | .read _ _, .ok values => readFunction :: UInt8.ofNat (values.length * 2) :: values.flatMap wordBytes
  | .read _ _, .error _ => [readFunction ||| 0x80, 0x04]
  | .write address values, .ok _ => writeFunction :: (wordBytes address ++ wordBytes (UInt16.ofNat values.length))
  | .write _ _, .error _ => [writeFunction ||| 0x80, 0x02]

/-- A simulated device that is called directly. -/
def direct : Transport (StateM SimulatedClock) := SimulatedClock.transport

/-- What a device answers to a PDU. One that asks for nothing known has an illegal value. -/
def servePdu (pdu : List UInt8) : StateM SimulatedClock (List UInt8) := do
  match requestOfPdu? pdu with
  | some request => return replyPdu request (← request.perform direct)
  | none => return [pdu.headD 0 ||| 0x80, 0x03]

/-- What a device answers to a frame, under the transaction and the unit of this frame. Bytes that are no frame of Modbus
    are left unanswered. -/
def serve (frame : List UInt8) : StateM SimulatedClock Reply := do
  match Header.ofBytes frame with
  | .error _ => return ⟨[], false⟩
  | .ok header =>
    let pdu := frame.drop Header.size
    if header.protocolId = 0 ∧ header.pduLength = pdu.length then
      return ⟨framed header.transactionId header.unitId (← servePdu pdu), false⟩
    else return ⟨[], false⟩

/-- The wire to a device that is served. -/
def serving : Wire (StateM SimulatedClock) Stream := answering {} serve

/-! ### Requests arrive -/

section
variable {request : Request}

theorem requestOfPdu?_pdu (legal : request.Legal) : requestOfPdu? request.pdu = some request := by
  cases request with
  | read address quantity => simp [Request.pdu, readRequest, wordBytes, requestOfPdu?]
  | write address values =>
    obtain ⟨-, small⟩ := legal
    unfold maxWriteRegisters at small
    have count : (UInt8.ofNat (values.length * 2)).toNat = values.length * 2 := by
      rw [UInt8.toNat_ofNat']
      omega
    have quantity : (UInt16.ofNat values.length).toNat = values.length := by
      rw [UInt16.toNat_ofNat']
      omega
    have announced : (UInt8.ofNat (values.length * 2)).toNat = (UInt16.ofNat values.length).toNat * 2 ∧
        (values.flatMap wordBytes).length = (UInt8.ofNat (values.length * 2)).toNat := by
      rw [count, quantity]
      exact ⟨rfl, flatMap_wordBytes_length values⟩
    simp only [Request.pdu, writeRequest, wordBytes, List.cons_append, List.nil_append, requestOfPdu?, wordOfBytes_bytes]
    rw [if_neg (by decide), if_pos trivial, if_pos announced, wordsOfBytes_flatMap]

theorem serve_framed {transactionId : UInt16} {unitId : UInt8} (legal : request.Legal) {d d' : SimulatedClock}
    {answer : Except FieldClock.Fault (List UInt16)}
    (performed : (request.perform direct).run d = (answer, d')) :
    (serve (framed transactionId unitId request.pdu)).run d =
      (⟨framed transactionId unitId (replyPdu request answer), false⟩, d') := by
  have small := Request.pdu_length_le legal
  have parsed : Header.ofBytes (framed transactionId unitId request.pdu) =
      .ok (Header.forRequest transactionId unitId request.pdu.length) := Header.ofBytes_bytes_append _ _
  have whole : (framed transactionId unitId request.pdu).drop Header.size = request.pdu := List.drop_left' rfl
  have served : (servePdu request.pdu).run d = (replyPdu request answer, d') := by
    rw [servePdu, requestOfPdu?_pdu legal]
    simp only [StateT.run_bind, performed]
    rfl
  rw [serve, parsed]
  simp only [whole]
  rw [if_pos ⟨rfl, by rw [Header.pduLength, Header.forRequest_length small, Nat.add_sub_cancel]⟩, StateT.run_bind, served]
  rfl

/-! ### Replies arrive -/

/-- The answers that a device which is connected and sends no short replies can give. -/
inductive Truthful : Request → Except FieldClock.Fault (List UInt16) → Prop
  | shown {address quantity : UInt16} {values : List UInt16} (whole : values.length = quantity.toNat) :
      Truthful (.read address quantity) (.ok values)
  | unread {address quantity : UInt16} : Truthful (.read address quantity) (.error (.fieldbus .simulatedReadFailure))
  | written {address : UInt16} {values : List UInt16} : Truthful (.write address values) (.ok [])
  | unwritten {address : UInt16} {values : List UInt16} :
      Truthful (.write address values) (.error (.fieldbus .simulatedWriteRefusal))

/-- What a fault of the device arrives as: the exception that tells of it. -/
def carried : FieldClock.Fault → FieldClock.Fault
  | .fieldbus .simulatedReadFailure => .fieldbus (.modbus (.exception .serverDeviceFailure))
  | .fieldbus .simulatedWriteRefusal => .fieldbus (.modbus (.exception .illegalDataAddress))
  | fault => fault

/-- A fault by nothing but its kind and its words. -/
def told : FieldClock.Fault → FieldClock.Fault
  | .fieldbus cause => .fieldbus (.reported cause.message)
  | fault => fault

/-- A fault and what it arrives as are told alike: the device words its faults as the exceptions are worded. -/
theorem told_carried (fault : FieldClock.Fault) : told (carried fault) = told fault := by
  cases fault with
  | fieldbus cause => cases cause <;> rfl
  | configuration _ => rfl
  | inputOutput _ => rfl
  | malformed _ => rfl

theorem mapError_told_carried (answer : Except FieldClock.Fault (List UInt16)) :
    (answer.mapError carried).mapError told = answer.mapError told := by
  cases answer with
  | ok _ => rfl
  | error fault => exact congrArg Except.error (told_carried fault)

theorem replyPdu_length {answer : Except FieldClock.Fault (List UInt16)} (legal : request.Legal)
    (truthful : Truthful request answer) :
    1 ≤ (replyPdu request answer).length ∧ (replyPdu request answer).length ≤ Header.maxPdu := by
  unfold Header.maxPdu
  cases truthful with
  | shown whole =>
    obtain ⟨-, small⟩ := legal
    unfold maxReadRegisters at small
    simp only [replyPdu, List.length_cons, flatMap_wordBytes_length]
    omega
  | unread => simp [replyPdu]
  | written => simp [replyPdu]
  | unwritten => simp [replyPdu]

theorem exists_framed {pdu : List UInt8} (transactionId : UInt16) (unitId : UInt8) (pos : 1 ≤ pdu.length)
    (small : pdu.length ≤ Header.maxPdu) :
    ∃ frame : Frame, frame.bytes = framed transactionId unitId pdu ∧ frame.pdu = pdu ∧
      frame.header.Answers transactionId unitId :=
  ⟨⟨_, pdu, Header.forRequest_length small, pos, small⟩, rfl, rfl, ⟨rfl, rfl, rfl⟩⟩

/-- The reply that tells of an answer is taken for that answer. -/
theorem accept_replyPdu {answer : Except FieldClock.Fault (List UInt16)} (legal : request.Legal)
    (truthful : Truthful request answer) :
    Client.answer (checkException (replyPdu request answer) >>= request.accept) = answer.mapError carried := by
  cases truthful with
  | @shown address quantity values whole =>
    refine Client.answer_eq_ok_iff.mpr ?_
    exact (read_accepted_iff legal.2).mpr ⟨whole, [], by simp [replyPdu]⟩
  | unread => rfl
  | @written address values =>
    have accepted : (checkException (replyPdu (.write address values) (.ok [])) >>=
        writeReply address (UInt16.ofNat values.length)) = .ok () := write_accepted_iff.mpr ⟨[], by simp [replyPdu]⟩
    obtain ⟨plain, echoed⟩ := checkException_bind_eq_ok_iff.mp accepted
    refine Client.answer_eq_ok_iff.mpr (checkException_bind_eq_ok_iff.mpr ?_)
    exact ⟨plain, by rw [Request.accept, echoed]; rfl⟩
  | unwritten => rfl

/-! ### The device -/

theorem exists_performed {d : SimulatedClock} (connected : d.connected = true) (whole : d.shortReads = false)
    (request : Request) :
    ∃ answer d', (request.perform direct).run d = (answer, d') ∧ Truthful request answer ∧ d'.connected = true ∧
      d'.shortReads = false := by
  cases request with
  | read address quantity =>
    show ∃ answer d', d.read address quantity = (answer, d') ∧ _
    unfold SimulatedClock.read
    rw [if_pos connected]
    split
    · exact ⟨_, _, rfl, .unread, connected, whole⟩
    · exact ⟨_, _, rfl, .shown (by simp [whole]), connected, whole⟩
  | write address values =>
    show ∃ answer d', ((d.write address values).1.map fun _ => [], (d.write address values).2) = (answer, d') ∧ _
    unfold SimulatedClock.write
    rw [if_pos connected]
    split
    · exact ⟨_, _, rfl, .unwritten, connected, whole⟩
    · exact ⟨_, _, rfl, .written, connected, whole⟩

/-- A client whose stream is empty gets from the server what the device answers, and its stream is empty again. -/
theorem run_perform_serving {endpoint : Endpoint} {n : UInt16} {d d' : SimulatedClock}
    {answer : Except FieldClock.Fault (List UInt16)} (legal : request.Legal)
    (performed : (request.perform direct).run d = (answer, d')) (truthful : Truthful request answer) :
    ((request.perform (Client.transport serving)).run ⟨endpoint, some {}, n⟩).run d =
      ((answer.mapError carried, ⟨endpoint, some {}, n + 1⟩), d') := by
  obtain ⟨pos, small⟩ := replyPdu_length legal truthful
  obtain ⟨frame, bytes, pdu, answers⟩ := exists_framed (n + 1) endpoint.unitId pos small
  have received : Received (Client.numbered ⟨endpoint, some {}, n⟩)
      (Stream.extend {} ⟨framed (n + 1) endpoint.unitId (replyPdu request answer), false⟩)
      (checkException (replyPdu request answer), ⟨endpoint, some {}, n + 1⟩) := by
    rw [← bytes, ← pdu]
    exact .whole (List.append_nil _).symm answers
  have asked : (Client.request serving request.pdu ⟨endpoint, some {}, n⟩).run d =
      ((checkException (replyPdu request answer), ⟨endpoint, some {}, n + 1⟩), d') :=
    run_request rfl (serve_framed legal performed) received
  have answered := Request.run_perform legal asked
  rw [accept_replyPdu legal truthful] at answered
  exact answered

end

/-! ### Runs -/

/-- A run over a server answers each request as the device does, its faults as they arrive, and leaves the device as it
    would be. -/
theorem run_performAll_serving {d : SimulatedClock} (connected : d.connected = true) (whole : d.shortReads = false)
    (endpoint : Endpoint) (n : UInt16) {requests : List Request} (legal : ∀ request ∈ requests, request.Legal) :
    ((Request.performAll (Client.transport serving) requests).run ⟨endpoint, some {}, n⟩).run d =
      ((((Request.performAll direct requests).run d).1.map (Except.mapError carried),
          ⟨endpoint, some {}, n + UInt16.ofNat requests.length⟩),
        ((Request.performAll direct requests).run d).2) := by
  -- Each request leaves the device connected and the stream empty, as the first one found them.
  induction requests generalizing d n with
  | nil =>
    rw [List.length_nil, show UInt16.ofNat 0 = 0 from rfl, UInt16.add_zero]
    rfl
  | cons request rest ih =>
    obtain ⟨answer, d', performed, truthful, connected', whole'⟩ := exists_performed connected whole request
    have first : ((request.perform (Client.transport serving)).run ⟨endpoint, some {}, n⟩).run d = _ :=
      run_perform_serving (legal request List.mem_cons_self) performed truthful
    have behind := ih connected' whole' (n + 1) fun later member => legal later (List.mem_cons_of_mem _ member)
    rw [add_ofNat_succ] at behind
    rw [Request.performAll, StateT.run_bind, StateT.run_bind, first]
    show ((Request.performAll (Client.transport serving) rest >>= fun answers =>
      pure (answer.mapError carried :: answers)).run _).run d' = _
    rw [StateT.run_bind, StateT.run_bind, behind, Request.performAll, StateT.run_bind, performed]
    rfl

/-- A client of a server gives the same answers as the device behind it, each fault of the same kind and in the same
    words, and leaves the device as it would be. -/
theorem performAll_serving {d : SimulatedClock} (connected : d.connected = true) (whole : d.shortReads = false)
    (endpoint : Endpoint) (n : UInt16) {requests : List Request} (legal : ∀ request ∈ requests, request.Legal) :
    ∃ answers,
      ((Request.performAll (Client.transport serving) requests).run ⟨endpoint, some {}, n⟩).run d =
        ((answers, ⟨endpoint, some {}, n + UInt16.ofNat requests.length⟩),
          ((Request.performAll direct requests).run d).2) ∧
      answers = ((Request.performAll direct requests).run d).1.map (Except.mapError carried) ∧
      answers.map (Except.mapError told) =
        ((Request.performAll direct requests).run d).1.map (Except.mapError told) := by
  refine ⟨_, run_performAll_serving connected whole endpoint n legal, rfl, ?_⟩
  rw [List.map_map]
  exact List.map_congr_left fun answer _ => mapError_told_carried answer

/-- A connected device that fails its second read. -/
def failingDevice : SimulatedClock where
  layout := {}
  clock := ⟨5, 6⟩
  connected := true
  failReadsFrom := some 1

/-- Reads the clock, sets it and reads it again. -/
def rereading : List Request := [.read 3 3, .write 290 [0, 9], .read 3 3]

theorem performAll_failingDevice :
    ((Request.performAll (Client.transport serving) rereading).run ⟨{}, some {}, 0⟩).run failingDevice =
        (([.ok [0, 5, 6], .ok [], Client.failed (.exception .serverDeviceFailure)], ⟨{}, some {}, 3⟩),
          { failingDevice with clock := ⟨9, 6⟩, reads := 2, writes := [⟨290, [0, 9]⟩] }) ∧
      ((Request.performAll direct rereading).run failingDevice).1 =
        [.ok [0, 5, 6], .ok [], .error (.fieldbus .simulatedReadFailure)] := by
  have legal : ∀ request ∈ rereading, request.Legal := by decide
  obtain ⟨answers, run, rfl, -⟩ := performAll_serving (d := failingDevice) rfl rfl {} 0 legal
  exact ⟨run, rfl⟩

end FieldClock.Modbus
