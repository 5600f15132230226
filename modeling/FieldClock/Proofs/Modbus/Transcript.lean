import FieldClock.Proofs.Modbus.Receiving
import Mathlib.Data.List.Forall2

/-!
# Transcripts

What a client sends in a run of calls, whatever the network and the peers on it do: one frame for each request that was made
on a connection and that a frame can carry. The frames are numbered on from the client's last number, across faults and new
connections, and a server reads in each just the request it was sent for.
-/

namespace FieldClock.Modbus

/-! ### The request in a PDU -/

/-- Takes so many words off the front of bytes. -/
def takeWords : Nat → List UInt8 → Option (List UInt16 × List UInt8)
  | 0, bytes => some ([], bytes)
  | n + 1, hi :: lo :: bytes => (takeWords n bytes).map fun (words, rest) => (wordOfBytes hi lo :: words, rest)
  | _ + 1, _ => none

/-- What a server reads in a PDU: the request, and the bytes behind it. -/
def decodeRequest : List UInt8 → Option (Request × List UInt8)
  | function :: a₁ :: a₂ :: q₁ :: q₂ :: rest =>
    if function = readFunction then some (.read (wordOfBytes a₁ a₂) (wordOfBytes q₁ q₂), rest)
    else if function = writeFunction then
      match rest with
      | count :: data =>
        if count.toNat = (wordOfBytes q₁ q₂).toNat * 2 then
          (takeWords (wordOfBytes q₁ q₂).toNat data).map fun (values, rest) => (.write (wordOfBytes a₁ a₂) values, rest)
        else none
      | [] => none
    else none
  | _ => none

theorem takeWords_flatMap (words : List UInt16) (rest : List UInt8) :
    takeWords words.length (words.flatMap wordBytes ++ rest) = some (words, rest) := by
  induction words with
  | nil => rfl
  | cons w words ih => simp [wordBytes, takeWords, ih]

theorem decodeRequest_pdu {request : Request} (legal : request.Legal) : decodeRequest request.pdu = some (request, []) := by
  cases request with
  | read address quantity => simp [Request.pdu, readRequest, wordBytes, decodeRequest]
  | write address values =>
    obtain ⟨-, small⟩ := legal
    have quantity : (UInt16.ofNat values.length).toNat = values.length := by
      unfold maxWriteRegisters at small
      rw [UInt16.toNat_ofNat']
      omega
    have count : (UInt8.ofNat (values.length * 2)).toNat = (UInt16.ofNat values.length).toNat * 2 := by
      rw [quantity, byteCount_toNat (Nat.le_trans small (by decide))]
    have taken := takeWords_flatMap values []
    rw [List.append_nil] at taken
    simp only [Request.pdu, writeRequest, wordBytes, List.cons_append, List.nil_append, decodeRequest, wordOfBytes_bytes]
    rw [if_neg (by decide), if_pos trivial, if_pos count, quantity, taken]
    rfl

/-- A frame carries a request under a number: its header has the number, the unit and the length of what follows, and a server
    reads in its PDU just the request. -/
def Carries (unitId : UInt8) (request : Request) (number : Nat) (frame : List UInt8) : Prop :=
  ∃ (header : Header) (pdu : List UInt8), frame = header.bytes ++ pdu ∧
    header.transactionId.toNat = number % 65536 ∧ header.protocolId = 0 ∧ header.unitId = unitId ∧
    header.length.toNat = pdu.length + 1 ∧ decodeRequest pdu = some (request, [])

theorem carries_framed {request : Request} (legal : request.Legal) (transactionId : UInt16) (unitId : UInt8) {number : Nat}
    (numbered : transactionId.toNat = number % 65536) : Carries unitId request number (framed transactionId unitId request.pdu) :=
  ⟨_, _, rfl, numbered, rfl, rfl, Header.forRequest_length (Request.pdu_length_le legal), decodeRequest_pdu legal⟩

/-! ### Networks at will -/

/-- A network with the peers on it, which do what they will with their state. Only sending does not fail. -/
structure Network (σ κ : Type) where
  dial : Endpoint → StateM σ (Except DialFault κ)
  send : κ → List UInt8 → StateM σ κ
  receive : κ → Nat → StateM σ (Except IoFault (List UInt8 × κ))
  hangUp : κ → StateM σ Unit

/-- Actions on a network that keep a list of the frames sent. -/
abbrev Noting (σ : Type) : Type → Type := StateT (List (List UInt8)) (StateM σ)

/-- The wire of a network, on which every frame sent is noted. -/
def Network.wire {σ κ : Type} (net : Network σ κ) : Wire (Noting σ) κ where
  dial endpoint := liftM (net.dial endpoint)
  send connection bytes := do
    modify (· ++ [bytes])
    return .ok (← net.send connection bytes)
  receive connection count := liftM (net.receive connection count)
  hangUp connection := liftM (net.hangUp connection)

/-- Whatever was sent before and in whatever state the network is, an action adds frames that are right for its answer. -/
def Emits {σ α : Type} (act : Noting σ α) (right : α → List (List UInt8) → Prop) : Prop :=
  ∀ sent s, ∃ frames, ((act.run sent).run s).1.2 = sent ++ frames ∧ right ((act.run sent).run s).1.1 frames

namespace Emits

variable {σ α β : Type} {act : Noting σ α} {right right' : α → List (List UInt8) → Prop}

theorem pure {a : α} (h : right a []) : Emits (pure a : Noting σ α) right :=
  fun sent _ => ⟨[], (List.append_nil sent).symm, h⟩

theorem mono (h : Emits act right) (weaker : ∀ a frames, right a frames → right' a frames) : Emits act right' := by
  intro sent s
  obtain ⟨frames, noted, fits⟩ := h sent s
  exact ⟨frames, noted, weaker _ _ fits⟩

theorem bind {next : α → Noting σ β} {then_ : β → List (List UInt8) → Prop} (h : Emits act right)
    (hnext : ∀ a frames, right a frames → Emits (next a) fun b more => then_ b (frames ++ more)) :
    Emits (act >>= next) then_ := by
  intro sent s
  obtain ⟨frames, noted, fits⟩ := h sent s
  obtain ⟨more, notedMore, fitsMore⟩ := hnext _ frames fits ((act.run sent).run s).1.2 ((act.run sent).run s).2
  exact ⟨frames ++ more, notedMore.trans (by rw [noted, List.append_assoc]), fitsMore⟩

/-- What only the network does sends nothing. -/
theorem lift_bind {act : StateM σ α} {next : α → Noting σ β} {then_ : β → List (List UInt8) → Prop}
    (hnext : ∀ a, Emits (next a) then_) : Emits (liftM act >>= next) then_ :=
  fun sent s => hnext (act.run s).1 sent (act.run s).2

theorem run_bind {τ : Type} {act : StateT τ (Noting σ) α} {next : α → StateT τ (Noting σ) β} {t : τ}
    {first : α × τ → List (List UInt8) → Prop} {then_ : β × τ → List (List UInt8) → Prop} (h : Emits (act.run t) first)
    (hnext : ∀ a t' frames, first (a, t') frames → Emits ((next a).run t') fun b more => then_ b (frames ++ more)) :
    Emits ((act >>= next).run t) then_ := by
  rw [StateT.run_bind]
  exact h.bind fun answer frames fits => hnext answer.1 answer.2 frames fits

end Emits

/-! ### What a client sends -/

/-- A client that went on by so many requests. -/
def Client.GoesOn {κ : Type} (c : Client κ) (requests : Nat) (c' : Client κ) : Prop :=
  c'.endpoint = c.endpoint ∧ c'.transactionId.toNat = (c.transactionId.toNat + requests) % 65536

namespace Client.GoesOn

variable {κ : Type} {c c' c'' : Client κ} {m n : Nat}

theorem connection (c : Client κ) (connection : Option κ) : c.GoesOn 0 { c with connection } := by
  refine ⟨rfl, ?_⟩
  have := c.transactionId.toNat_lt
  show c.transactionId.toNat = _
  omega

theorem next (c : Client κ) : c.GoesOn 1 { c with transactionId := c.transactionId + 1 } :=
  ⟨rfl, UInt16.toNat_add c.transactionId 1⟩

theorem trans (h : c.GoesOn m c') (h' : c'.GoesOn n c'') : c.GoesOn (m + n) c'' := by
  obtain ⟨same, number⟩ := h
  obtain ⟨same', number'⟩ := h'
  exact ⟨same'.trans same, by omega⟩

end Client.GoesOn

/-- An action of a client puts PDUs, one at most, in frames with its next number, and the client goes on by their number. -/
def Client.Sends {σ κ α : Type} (c : Client κ) (act : Noting σ (α × Client κ)) (pdus : List (List UInt8)) : Prop :=
  Emits act fun answer frames =>
    frames = pdus.map (framed (c.transactionId + 1) c.endpoint.unitId) ∧ c.GoesOn pdus.length answer.2

section
variable {σ κ : Type} {net : Network σ κ} {c : Client κ}

theorem sends_pure {α : Type} {a : α} (connection : Option κ) :
    c.Sends (pure (a, { c with connection }) : Noting σ (α × Client κ)) [] :=
  .pure ⟨rfl, .connection c connection⟩

theorem sends_bind {α β : Type} {act : Noting σ (α × Client κ)} {answer : α × Client κ → β} {pdus : List (List UInt8)}
    (sends : c.Sends act pdus) : c.Sends (act >>= fun a => pure (answer a, a.2)) pdus :=
  sends.bind fun a frames h => .pure (by rwa [List.append_nil])

theorem sends_connect : c.Sends (Client.connect net.wire c) [] := by
  refine .lift_bind fun dialled => ?_
  rcases dialled with cause | connection
  · exact sends_pure _
  rcases old : c.connection with _ | hung
  · exact sends_pure _
  · exact .lift_bind fun _ => sends_pure _

theorem sends_drop {connection : κ} {cause : Fault} : c.Sends (Client.drop net.wire connection c cause) [] :=
  .lift_bind fun _ => sends_pure _

theorem sends_receiveReply {connection : κ} : c.Sends (Client.receiveReply net.wire connection c) [] := by
  refine .lift_bind fun received => ?_
  rcases received with cause | ⟨bytes, connection⟩
  · exact sends_drop
  simp only
  rcases Header.ofBytes bytes >>= (·.check c.transactionId c.endpoint.unitId) with cause | length
  · exact sends_pure _
  refine .lift_bind fun received => ?_
  rcases received with cause | ⟨pdu, connection⟩
  · exact sends_drop
  · exact sends_pure _

theorem emits_send {connection : κ} {bytes : List UInt8} :
    Emits (net.wire.send connection bytes) fun answer frames => frames = [bytes] ∧ ∃ kept, answer = .ok kept :=
  fun _ _ => ⟨[bytes], rfl, rfl, _, rfl⟩

/-- A request is sent if there is a connection, whatever comes back. -/
theorem sends_request {pdu : List UInt8} :
    c.Sends (Client.request net.wire pdu c) (if c.isConnected then [pdu] else []) := by
  rcases connected : c.connection with _ | connection
  · simp only [Client.request, Client.isConnected, connected]
    exact .pure ⟨rfl, .connection c c.connection⟩
  · simp only [Client.request, Client.isConnected, connected]
    refine emits_send.bind ?_
    rintro _ _ ⟨rfl, kept, rfl⟩
    refine sends_receiveReply.mono ?_
    rintro reply _ ⟨rfl, same⟩
    exact ⟨rfl, (Client.GoesOn.next c).trans same⟩

/-! ### What a call sends -/

theorem sends_run_bind {α β : Type} {act : StateT (Client κ) (Noting σ) α} {answer : α → β} {pdus : List (List UInt8)}
    (sends : c.Sends (act.run c) pdus) : c.Sends ((act >>= fun a => pure (answer a)).run c) pdus := by
  rw [StateT.run_bind]
  exact sends_bind sends

/-- The requests that a call puts on a connection, one at most: there must be a connection, and a frame that can carry it. -/
def sentFor (made : Bool × Call) : List Request :=
  match made.2.request? with
  | some request => if made.1 ∧ request.Legal then [request] else []
  | none => []

theorem sentFor_illegal {connected : Bool} {call : Call} {request : Request} (asks : call.request? = some request)
    (illegal : ¬ request.Legal) : sentFor (connected, call) = [] := by
  simp [sentFor, asks, illegal]

theorem sentFor_legal {connected : Bool} {call : Call} {request : Request} (asks : call.request? = some request)
    (legal : request.Legal) :
    (sentFor (connected, call)).map Request.pdu = if connected then [request.pdu] else [] := by
  cases connected <;> simp [sentFor, asks, legal]

theorem sends_read (address quantity : UInt16) :
    c.Sends (Client.read net.wire address quantity c)
      ((sentFor (c.isConnected, .read address quantity)).map Request.pdu) := by
  by_cases legal : (Request.read address quantity).Legal
  · rw [sentFor_legal rfl legal, Client.read, if_neg (by unfold Request.Legal at legal; omega)]
    exact sends_bind sends_request
  · rw [sentFor_illegal rfl legal, Client.read, if_pos (by unfold Request.Legal at legal; omega)]
    exact sends_pure c.connection

theorem sends_write (address : UInt16) (values : List UInt16) :
    c.Sends (Client.write net.wire address values c)
      ((sentFor (c.isConnected, .write address values)).map Request.pdu) := by
  by_cases legal : (Request.write address values).Legal
  · rw [sentFor_legal rfl legal, Client.write, if_neg (by unfold Request.Legal at legal; omega)]
    exact sends_bind sends_request
  · rw [sentFor_illegal rfl legal, Client.write, if_pos (by unfold Request.Legal at legal; omega)]
    exact sends_pure c.connection

theorem sends_close : c.Sends (((Client.transport net.wire).close).run c) [] := by
  show c.Sends (Client.close net.wire c >>= fun c' => pure ((), c')) []
  rcases connected : c.connection with _ | connection
  · simp only [Client.close, connected]
    exact sends_pure none
  · simp only [Client.close, connected]
    exact .lift_bind fun _ => sends_pure none

theorem sends_make (call : Call) :
    c.Sends ((call.make (Client.transport net.wire)).run c) ((sentFor (c.isConnected, call)).map Request.pdu) := by
  cases call with
  | connect => exact sends_run_bind sends_connect
  | read address quantity => exact sends_read address quantity
  | write address values => exact sends_run_bind (sends_write address values)
  | close => exact sends_run_bind sends_close

/-! ### Runs of calls -/

/-- Frames carry requests in order, under the numbers from `start` on. -/
def CarriesAll (unitId : UInt8) (start : Nat) (requests : List Request) (frames : List (List UInt8)) : Prop :=
  List.Forall₂ (fun (request, number) frame => Carries unitId request number frame) (requests.zipIdx start) frames

theorem CarriesAll.append {unitId : UInt8} {start : Nat} {first second : List Request} {frames more : List (List UInt8)}
    (h : CarriesAll unitId start first frames) (h' : CarriesAll unitId (start + first.length) second more) :
    CarriesAll unitId start (first ++ second) (frames ++ more) := by
  unfold CarriesAll
  rw [List.zipIdx_append]
  exact List.rel_append h h'

theorem carriesAll_sentFor {made : Bool × Call} {transactionId : UInt16} {unitId : UInt8} {start : Nat}
    (numbered : transactionId.toNat = start % 65536) :
    CarriesAll unitId start (sentFor made) (((sentFor made).map Request.pdu).map (framed transactionId unitId)) := by
  unfold sentFor
  split
  · split
    · rename_i fits
      exact .cons (carries_framed fits.2 transactionId unitId numbered) .nil
    · exact .nil
  · exact .nil

variable (net) in
/-- A run of calls sends a frame for each request on a connection that a frame can carry, whatever it is answered. -/
theorem emits_makeAll (calls : List Call) (c : Client κ) {start : Nat}
    (numbered : (c.transactionId.toNat + 1) % 65536 = start % 65536) :
    Emits ((Call.makeAll (Client.transport net.wire) calls).run c) fun answer frames =>
      answer.1.map Prod.snd = calls ∧ CarriesAll c.endpoint.unitId start (answer.1.flatMap sentFor) frames := by
  induction calls generalizing c start with
  | nil => exact .pure ⟨rfl, .nil⟩
  | cons call calls ih =>
    show Emits ((call.make (Client.transport net.wire) >>= fun _ => Call.makeAll (Client.transport net.wire) calls >>=
      fun rest => pure ((c.isConnected, call) :: rest)).run c) _
    refine .run_bind (sends_make call) ?_
    rintro _ c' _ ⟨rfl, same, next⟩
    have numbered' : (c'.transactionId.toNat + 1) % 65536 = (start + (sentFor (c.isConnected, call)).length) % 65536 := by
      simp only [List.length_map] at next
      omega
    refine .run_bind (ih c' numbered') ?_
    rintro rest c'' frames ⟨all, carried⟩
    rw [same] at carried
    refine .pure ⟨congrArg (call :: ·) all, ?_⟩
    rw [List.append_nil, List.flatMap_cons]
    refine (carriesAll_sentFor ?_).append carried
    rw [← numbered]
    exact UInt16.toNat_add c.transactionId 1

end

/-- What comes of calls on a network: of each, whether there was a connection when it was made, and the frames sent. -/
def Network.transcript {σ κ : Type} (net : Network σ κ) (state : σ) (c : Client κ) (calls : List Call) :
    List (Bool × Call) × List (List UInt8) :=
  let (((made, _), sent), _) := (((Call.makeAll (Client.transport net.wire) calls).run c).run []).run state
  (made, sent)

/-- Whatever the network and the peers on it do, the frames that a client sends in calls, over all its connections, are one
    for each call that was made on a connection and asks for what a frame can carry, numbered on from its last request. -/
theorem transcript_carries {σ κ : Type} (net : Network σ κ) (state : σ) (c : Client κ) (calls : List Call) :
    (net.transcript state c calls).1.map Prod.snd = calls ∧
      CarriesAll c.endpoint.unitId (c.transactionId.toNat + 1) ((net.transcript state c calls).1.flatMap sentFor)
        (net.transcript state c calls).2 := by
  obtain ⟨frames, sent, all, carried⟩ := emits_makeAll net calls c rfl [] state
  rw [List.nil_append] at sent
  rw [← sent] at carried
  exact ⟨all, carried⟩

end FieldClock.Modbus
