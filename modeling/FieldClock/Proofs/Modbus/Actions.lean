import FieldClock.Modbus.Client
import FieldClock.Proofs.Likeness
import FieldClock.Proofs.Modbus.Receiving

/-!
# Actions on a wire

What a client does on a wire for a call, in order, and how the call leaves the client. A call is told by rules, one for each
way it can go, and on every wire each call is shown to follow one of them.
-/

namespace FieldClock.Modbus

/-- An action of a client on a wire, with what came of it. -/
inductive Act (κ : Type) where
  | dial (endpoint : Endpoint) (answer : Except DialFault κ)
  | send (connection : κ) (bytes : List UInt8) (answer : Except IoFault κ)
  | receive (connection : κ) (count : Nat) (answer : Except IoFault (List UInt8 × κ))
  | hangUp (connection : κ)

/-- An action in which the bytes of a request or of its reply did not all go over the wire. -/
def Act.Breaks {κ : Type} : Act κ → Prop
  | .send _ _ (.error _) => True
  | .receive _ _ (.error _) => True
  | _ => False

/-- A wire on which the actions are noted. -/
def Wire.noting {σ κ : Type} (wire : Wire (StateM σ) κ) : Wire (StateM (List (Act κ) × σ)) κ where
  dial endpoint := fun (acts, s) =>
    let (answer, s) := (wire.dial endpoint).run s
    (answer, acts ++ [.dial endpoint answer], s)
  send connection bytes := fun (acts, s) =>
    let (answer, s) := (wire.send connection bytes).run s
    (answer, acts ++ [.send connection bytes answer], s)
  receive connection count := fun (acts, s) =>
    let (answer, s) := (wire.receive connection count).run s
    (answer, acts ++ [.receive connection count answer], s)
  hangUp connection := fun (acts, s) =>
    let ((), s) := (wire.hangUp connection).run s
    ((), acts ++ [.hangUp connection], s)

/-- Actions that are the same but for notes. -/
def noted (ν σ : Type) : Likeness (StateM (ν × σ)) (StateM σ) where
  Alike x y := ∀ notes s, ∃ more, x.run (notes, s) = ((y.run s).1, more, (y.run s).2)
  alike_pure _ notes _ := ⟨notes, rfl⟩
  alike_bind := by
    intro α β x y f g first next notes s
    obtain ⟨more, run⟩ := first notes s
    rw [run_bind_of run]
    exact next _ more _

theorem wires_noting {σ κ : Type} (wire : Wire (StateM σ) κ) : (noted (List (Act κ)) σ).Wires wire.noting wire where
  dial _ _ _ := ⟨_, rfl⟩
  send _ _ _ _ := ⟨_, rfl⟩
  receive _ _ _ _ := ⟨_, rfl⟩
  hangUp _ _ _ := ⟨_, rfl⟩

theorem alike_make {m n : Type → Type} [Monad m] [Monad n] {ℓ : Likeness m n} {t : Transport m} {u : Transport n}
    (calls : ℓ.Transports t u) (call : Call) : ℓ.Alike (call.make t) (call.make u) := by
  cases call with
  | connect => exact ℓ.alike_bind calls.connect fun _ => ℓ.alike_pure _
  | read address quantity => exact calls.read address quantity
  | write address values => exact ℓ.alike_bind (calls.write address values) fun _ => ℓ.alike_pure _
  | close => exact ℓ.alike_bind calls.close fun _ => ℓ.alike_pure _

/-! ### Rules -/

/-- What a client does for a request, and what reply it gets. -/
inductive Asks {κ : Type} (c : Client κ) (pdu : List UInt8) : List (Act κ) → Except Fault (List UInt8) → Client κ → Prop
  | unconnected (unheld : c.connection = none) : Asks c pdu [] (.error .notConnected) c
  | unsent {k : κ} {cause : IoFault} (held : c.connection = some k) :
      Asks c pdu [.send k (framed (c.transactionId + 1) c.endpoint.unitId pdu) (.error cause), .hangUp k]
        (.error (.send cause)) ⟨c.endpoint, none, c.transactionId + 1⟩
  | noHeader {k k₁ : κ} {cause : IoFault} (held : c.connection = some k) :
      Asks c pdu
        [.send k (framed (c.transactionId + 1) c.endpoint.unitId pdu) (.ok k₁), .receive k₁ Header.size (.error cause),
          .hangUp k₁]
        (.error (.receiveHeader cause)) ⟨c.endpoint, none, c.transactionId + 1⟩
  | refused {k k₁ k₂ : κ} {header : List UInt8} {cause : Fault} (held : c.connection = some k)
      (fails : (Header.ofBytes header >>= (·.check (c.transactionId + 1) c.endpoint.unitId)) = .error cause) :
      Asks c pdu
        [.send k (framed (c.transactionId + 1) c.endpoint.unitId pdu) (.ok k₁),
          .receive k₁ Header.size (.ok (header, k₂))]
        (.error cause) ⟨c.endpoint, some k₂, c.transactionId + 1⟩
  | noPdu {k k₁ k₂ : κ} {header : List UInt8} {n : Nat} {cause : IoFault} (held : c.connection = some k)
      (passes : (Header.ofBytes header >>= (·.check (c.transactionId + 1) c.endpoint.unitId)) = .ok n) :
      Asks c pdu
        [.send k (framed (c.transactionId + 1) c.endpoint.unitId pdu) (.ok k₁),
          .receive k₁ Header.size (.ok (header, k₂)), .receive k₂ n (.error cause), .hangUp k₂]
        (.error (.receivePdu cause)) ⟨c.endpoint, none, c.transactionId + 1⟩
  | whole {k k₁ k₂ k₃ : κ} {header reply : List UInt8} {n : Nat} (held : c.connection = some k)
      (passes : (Header.ofBytes header >>= (·.check (c.transactionId + 1) c.endpoint.unitId)) = .ok n) :
      Asks c pdu
        [.send k (framed (c.transactionId + 1) c.endpoint.unitId pdu) (.ok k₁),
          .receive k₁ Header.size (.ok (header, k₂)), .receive k₂ n (.ok (reply, k₃))]
        (checkException reply) ⟨c.endpoint, some k₃, c.transactionId + 1⟩

/-- What a client does for a call, and what answer it gets. -/
inductive Makes {κ : Type} (c : Client κ) :
    Call → List (Act κ) → Except FieldClock.Fault (List UInt16) → Client κ → Prop
  | unopened (cause : DialFault) :
      Makes c .connect [.dial c.endpoint (.error cause)] (Client.failed (.dial cause)) c
  | opened (k : κ) :
      Makes c .connect (.dial c.endpoint (.ok k) :: c.connection.toList.map .hangUp) (.ok [])
        { c with connection := some k }
  | illegal {call : Call} {request : Request} (asked : call.request? = some request) (illegal : ¬ request.Legal) :
      Makes c call [] (Client.failed (.registerCount request.count)) c
  | legal {call : Call} {request : Request} {acts : List (Act κ)} {reply : Except Fault (List UInt8)} {c' : Client κ}
      (asked : call.request? = some request) (legal : request.Legal) (asks : Asks c request.pdu acts reply c') :
      Makes c call acts (Client.answer (reply >>= request.accept)) c'
  | closed : Makes c .close (c.connection.toList.map .hangUp) (.ok []) { c with connection := none }

/-! ### Every call follows the rules -/

/-- A run follows a rule if it adds the actions that the rule tells, and leaves the network as it is if these are none. -/
def Follows {σ κ α : Type} (rule : List (Act κ) → α → Client κ → Prop) (acts : List (Act κ)) (s : σ)
    (result : (α × Client κ) × List (Act κ) × σ) : Prop :=
  ∃ new, result.2.1 = acts ++ new ∧ rule new result.1.1 result.1.2 ∧ (new = [] → result.2.2 = s)

theorem not_silent {κ : Type} {act : Act κ} {rest : List (Act κ)} {p : Prop} (silent : act :: rest = []) : p :=
  absurd silent (List.cons_ne_nil _ _)

section
variable {σ κ : Type} {wire : Wire (StateM σ) κ} {c : Client κ} {acts : List (Act κ)} {s s₁ : σ} {k : κ}

theorem run_send {bytes : List UInt8} {answer : Except IoFault κ} (sent : (wire.send k bytes).run s = (answer, s₁)) :
    (wire.noting.send k bytes).run (acts, s) = (answer, acts ++ [.send k bytes answer], s₁) := by
  simp only [StateT.run] at sent
  simp only [StateT.run, Wire.noting, sent]

theorem run_receive {count : Nat} {answer : Except IoFault (List UInt8 × κ)}
    (received : (wire.receive k count).run s = (answer, s₁)) :
    (wire.noting.receive k count).run (acts, s) = (answer, acts ++ [.receive k count answer], s₁) := by
  simp only [StateT.run] at received
  simp only [StateT.run, Wire.noting, received]

variable (wire c acts s) in
theorem follows_request (pdu : List UInt8) :
    Follows (Asks c pdu) acts s ((Client.request wire.noting pdu c).run (acts, s)) := by
  rcases held : c.connection with _ | k
  · simp only [Client.request, held]
    exact ⟨[], (List.append_nil _).symm, .unconnected held, fun _ => rfl⟩
  simp only [Client.request, held]
  rw [← framed]
  rcases sent : (wire.send k (framed (c.transactionId + 1) c.endpoint.unitId pdu)).run s with ⟨cause | k₁, s₁⟩
  · rw [run_bind_of (run_send sent)]
    exact ⟨_, List.append_assoc .., .unsent held, not_silent⟩
  rw [run_bind_of (run_send sent)]
  simp only [Client.receiveReply]
  rcases headed : (wire.receive k₁ Header.size).run s₁ with ⟨cause | ⟨header, k₂⟩, s₂⟩
  · rw [run_bind_of (run_receive headed)]
    exact ⟨_, (List.append_assoc ..).trans (List.append_assoc ..), .noHeader held, not_silent⟩
  rw [run_bind_of (run_receive headed)]
  simp only
  rcases check : Header.ofBytes header >>= (·.check (c.transactionId + 1) c.endpoint.unitId) with cause | n
  · exact ⟨_, List.append_assoc .., .refused held check, not_silent⟩
  simp only [Client.receivePdu]
  rcases received : (wire.receive k₂ n).run s₂ with ⟨cause | ⟨reply, k₃⟩, s₃⟩
  · rw [run_bind_of (run_receive received)]
    exact ⟨_, (List.append_assoc ..).trans ((List.append_assoc ..).trans (List.append_assoc ..)), .noPdu held check, not_silent⟩
  · rw [run_bind_of (run_receive received)]
    exact ⟨_, (List.append_assoc ..).trans (List.append_assoc ..), .whole held check, not_silent⟩

theorem run_dial {endpoint : Endpoint} {answer : Except DialFault κ} (dialled : (wire.dial endpoint).run s = (answer, s₁)) :
    (wire.noting.dial endpoint).run (acts, s) = (answer, acts ++ [.dial endpoint answer], s₁) := by
  simp only [StateT.run] at dialled
  simp only [StateT.run, Wire.noting, dialled]

theorem follows_connect :
    Follows (fun new answer => Makes c .connect new (answer.map fun _ => [])) acts s
      ((Client.connect wire.noting c).run (acts, s)) := by
  rw [Client.connect]
  rcases dialled : (wire.dial c.endpoint).run s with ⟨cause | k, s₁⟩
  · rw [run_bind_of (run_dial dialled)]
    exact ⟨_, rfl, .unopened cause, not_silent⟩
  · rw [run_bind_of (run_dial dialled)]
    rcases c with ⟨endpoint, _ | old, n⟩
    · exact ⟨_, rfl, .opened k, not_silent⟩
    · exact ⟨_, List.append_assoc .., .opened k, not_silent⟩

theorem follows_close :
    Follows (fun new (_ : Unit) => Makes c .close new (.ok [])) acts s
      (((Client.transport wire.noting).close.run c).run (acts, s)) := by
  rcases c with ⟨endpoint, _ | old, n⟩
  · exact ⟨[], (List.append_nil _).symm, .closed, fun _ => rfl⟩
  · exact ⟨_, rfl, .closed, not_silent⟩

theorem follows_perform {call : Call} {request : Request} (asked : call.request? = some request) :
    Follows (Makes c call) acts s (((request.perform (Client.transport wire.noting)).run c).run (acts, s)) := by
  by_cases legal : request.Legal
  · rcases run : (Client.request wire.noting request.pdu c).run (acts, s) with ⟨⟨reply, c'⟩, acts', s'⟩
    obtain ⟨new, added, asks, untouched⟩ := run ▸ follows_request wire c acts s request.pdu
    rw [Request.run_perform legal run]
    exact ⟨new, added, .legal asked legal asks, untouched⟩
  · rw [Request.run_perform_illegal legal]
    exact ⟨[], (List.append_nil _).symm, .illegal asked legal, fun _ => rfl⟩

variable (wire c acts s) in
/-- On every wire, each call follows the rules. -/
theorem follows_make (call : Call) :
    Follows (Makes c call) acts s (((call.make (Client.transport wire.noting)).run c).run (acts, s)) := by
  cases call with
  | connect => exact follows_connect
  | read address quantity => exact follows_perform rfl
  | write address values => exact follows_perform rfl
  | close => exact follows_close

end

end FieldClock.Modbus
