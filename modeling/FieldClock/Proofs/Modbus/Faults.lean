import FieldClock.Modbus.Peer
import FieldClock.Proofs.Modbus.Actions

/-!
# Faults of calls

What a call over a network can fail with. A dial misses time only if it was given none, a request that a frame can carry fails on
the line, and a reading that succeeds shows all the registers that it asked for.
-/

namespace FieldClock.Modbus

/-- A network misses time for connecting, for answers or for requests only if it is given none. -/
structure Wire.Timely {σ κ : Type} (wire : Wire (StateM σ) κ) : Prop where
  connecting : ∀ endpoint s, ((wire.dial endpoint).run s).1 = .error .zeroConnectTimeout →
    endpoint.connectTimeout.isZero = true
  answering : ∀ endpoint s, ((wire.dial endpoint).run s).1 = .error .zeroReadTimeout → endpoint.ioTimeout.isZero = true
  asking : ∀ endpoint s, ((wire.dial endpoint).run s).1 = .error .zeroWriteTimeout → endpoint.ioTimeout.isZero = true

theorem Peer.wire_timely : (Peer.wire : Wire (StateM Peer) Line).Timely := by
  have why (endpoint : Endpoint) (p : Peer) (fault : DialFault)
      (refused : ((Peer.wire.dial endpoint : StateM Peer _).run p).1 = .error fault) : p.route.fault? endpoint = some fault := by
    have refused : (p.accept endpoint).1 = .error fault := refused
    unfold Peer.accept at refused
    split at refused
    · rename_i found
      rw [found, Except.error.inj refused]
    · cases refused
  refine ⟨fun endpoint p refused => ?_, fun endpoint p refused => ?_, fun endpoint p refused => ?_⟩
  all_goals
    have found := why endpoint p _ refused
    unfold Route.fault? at found
    grind

/-! ### Faults of requests -/

/-- A fault of a request on its way or of what comes back. -/
def Fault.OnLine : Fault → Prop
  | .dial _ => False
  | .registerCount _ => False
  | _ => True

theorem Header.onLine_of_check {header : List UInt8} {transactionId : UInt16} {unitId : UInt8} {cause : Fault}
    (fails : (Header.ofBytes header >>= (·.check transactionId unitId)) = .error cause) : cause.OnLine := by
  rcases parsed : Header.ofBytes header with fault | h
  · rw [parsed] at fails
    cases fails
    unfold Header.ofBytes at parsed
    split at parsed <;> cases parsed
    trivial
  · rw [parsed] at fails
    have fails : h.check transactionId unitId = .error cause := fails
    unfold Header.check at fails
    split at fails
    · cases fails; trivial
    split at fails
    · cases fails; trivial
    split at fails
    · cases fails; trivial
    split at fails <;> cases fails
    trivial

theorem onLine_of_checkException {pdu : List UInt8} {cause : Fault} (fails : checkException pdu = .error cause) :
    cause.OnLine := by
  unfold checkException at fails
  split at fails <;> cases fails
  trivial

theorem onLine_of_readReply {quantity : UInt16} {pdu : List UInt8} {cause : Fault}
    (fails : readReply quantity pdu = .error cause) : cause.OnLine := by
  unfold readReply at fails
  split at fails
  · split at fails
    · cases fails; trivial
    split at fails
    · cases fails; trivial
    split at fails <;> cases fails
    trivial
  · cases fails; trivial

theorem onLine_of_writeReply {address quantity : UInt16} {pdu : List UInt8} {cause : Fault}
    (fails : writeReply address quantity pdu = .error cause) : cause.OnLine := by
  unfold writeReply at fails
  split at fails
  · split at fails
    · cases fails; trivial
    split at fails <;> cases fails
    trivial
  · cases fails; trivial

theorem onLine_of_accept {request : Request} {pdu : List UInt8} {cause : Fault}
    (fails : request.accept pdu = .error cause) : cause.OnLine := by
  cases request with
  | read address quantity => exact onLine_of_readReply fails
  | write address values =>
    rcases checked : writeReply address (UInt16.ofNat values.length) pdu with found | _
    · rw [Request.accept, checked] at fails
      cases fails
      exact onLine_of_writeReply checked
    · rw [Request.accept, checked] at fails
      cases fails

section
variable {κ : Type} {c c' : Client κ} {acts : List (Act κ)}

theorem Asks.onLine {pdu : List UInt8} {cause : Fault} (asks : Asks c pdu acts (.error cause) c') : cause.OnLine := by
  generalize answered : (Except.error cause : Except Fault (List UInt8)) = reply at asks
  cases asks with
  | unconnected unheld => cases answered; trivial
  | unsent held => cases answered; trivial
  | noHeader held => cases answered; trivial
  | refused held fails =>
    cases answered
    exact Header.onLine_of_check fails
  | noPdu held passes => cases answered; trivial
  | whole held passes => exact onLine_of_checkException answered.symm

theorem Asks.endpoint {pdu : List UInt8} {reply : Except Fault (List UInt8)} (asks : Asks c pdu acts reply c') :
    c'.endpoint = c.endpoint := by
  cases asks <;> rfl

theorem Makes.endpoint {call : Call} {answer : Except FieldClock.Fault (List UInt16)} (makes : Makes c call acts answer c') :
    c'.endpoint = c.endpoint := by
  cases makes with
  | legal asked legal asks => exact asks.endpoint
  | _ => rfl

/-- A request that a frame can carry fails on the line. -/
theorem Makes.onLine {call : Call} {request : Request} {cause : FieldClock.Fault} (asked : call.request? = some request)
    (legal : request.Legal) (makes : Makes c call acts (.error cause) c') :
    ∃ fault : Fault, fault.OnLine ∧ cause = .fieldbus (.modbus fault) := by
  generalize answered : (Except.error cause : Except FieldClock.Fault (List UInt16)) = answer at makes
  cases makes with
  | unopened => cases asked
  | opened => cases answered
  | closed => cases answered
  | illegal asked' illegal =>
    obtain rfl := Option.some.inj (asked.symm.trans asked')
    exact absurd legal illegal
  | @legal _ request' acts reply c' asked' legal' asks =>
    rcases reply with fault | pdu
    · cases answered
      exact ⟨fault, asks.onLine, rfl⟩
    · rcases accepted : request'.accept pdu with fault | registers
      · rw [show (Except.ok pdu >>= request'.accept) = _ from accepted] at answered
        cases answered
        exact ⟨fault, onLine_of_accept accepted, rfl⟩
      · rw [show (Except.ok pdu >>= request'.accept) = _ from accepted] at answered
        cases answered

/-- The actions of a reading whose reply is accepted and shows these registers. -/
inductive Reads {κ : Type} (unitId : UInt8) (address quantity : UInt16) (registers : List UInt16) : List (Act κ) → Prop
  | whole {id : UInt16} {k k₁ k₂ k₃ : κ} {header pdu : List UInt8} {n : Nat}
      (passes : (Header.ofBytes header >>= (·.check id unitId)) = .ok n) (length : registers.length = quantity.toNat)
      (shown : ShowsRegisters registers pdu) :
      Reads unitId address quantity registers
        [.send k (framed id unitId (readRequest address quantity)) (.ok k₁), .receive k₁ Header.size (.ok (header, k₂)),
          .receive k₂ n (.ok (pdu, k₃))]

theorem Makes.reads {address quantity : UInt16} {registers : List UInt16}
    (makes : Makes c (.read address quantity) acts (.ok registers) c') :
    Reads c.endpoint.unitId address quantity registers acts := by
  generalize answered : (Except.ok registers : Except FieldClock.Fault (List UInt16)) = answer at makes
  cases makes with
  | illegal => cases answered
  | @legal _ request acts reply c' asked legal asks =>
    obtain rfl := Option.some.inj asked
    have accepted : (reply >>= readReply quantity) = .ok registers := Client.answer_eq_ok_iff.mp answered.symm
    cases asks with
    | whole held passes =>
      obtain ⟨length, shown⟩ := (read_accepted_iff legal.2).mp accepted
      exact .whole passes length shown
    | _ => cases accepted

end

end FieldClock.Modbus
