import FieldClock.Proofs.Likeness
import FieldClock.Proofs.Modbus.Receiving

/-!
# Receiving in a fixed memory

A client that receives every reply in one memory of fixed size, which it uses again and again, and that looks at single places
of it. Whatever is left there from earlier replies, such a client comes to the same as one that takes its bytes as lists, and
it never looks at a place that is not there.
-/

namespace FieldClock.Modbus

/-! ### Memory -/

/-- The memory of a client: room for the longest frame. -/
structure Memory where
  bytes : List UInt8
  length_eq : bytes.length = Header.size + Header.maxPdu

namespace Memory

/-- The bytes from one place up to another, if the memory has them all. -/
def slice? (memory : Memory) (start stop : Nat) : Option (List UInt8) :=
  if start ≤ stop ∧ stop ≤ memory.bytes.length then some ((memory.bytes.take stop).drop start) else none

/-- The memory with bytes put in from a place on, if it has room for them there. -/
def put? (memory : Memory) (start : Nat) (new : List UInt8) : Option Memory :=
  if room : start + new.length ≤ memory.bytes.length then
    some ⟨memory.bytes.take start ++ new ++ memory.bytes.drop (start + new.length), by
      have := memory.length_eq
      simp only [List.length_append, List.length_take, List.length_drop]
      omega⟩
  else none

theorem exists_put (memory : Memory) {start : Nat} {new : List UInt8}
    (room : start + new.length ≤ Header.size + Header.maxPdu) :
    ∃ memory', memory.put? start new = some memory' ∧ memory'.slice? start (start + new.length) = some new := by
  rw [← memory.length_eq] at room
  have first : (memory.bytes.take start ++ new).length = start + new.length := by
    rw [List.length_append, List.length_take]
    omega
  have before : (memory.bytes.take start).length = start := by
    rw [List.length_take]
    omega
  refine ⟨_, dif_pos room, ?_⟩
  rw [slice?, if_pos ⟨by omega, by simp only [List.length_append, List.length_drop] at first ⊢; omega⟩]
  simp only
  rw [List.take_left' first, List.drop_left' before]

end Memory

/-- Actions with a memory. They fail if they reach for a place that it does not have. -/
abbrev Access (m : Type → Type) := StateT Memory (OptionT m)

section
variable {m : Type → Type} [Monad m]

/-- Reaches for a place. -/
def reach {α : Type} (place : Option α) : Access m α := fun memory => OptionT.mk (pure (place.map (·, memory)))

/-- The bytes in the places from `start` to `stop`. -/
def look (start stop : Nat) : Access m (List UInt8) := fun memory =>
  OptionT.mk (pure ((memory.slice? start stop).map (·, memory)))

/-- Puts bytes into the places from `start` on. -/
def store (start : Nat) (bytes : List UInt8) : Access m Unit := fun memory =>
  OptionT.mk (pure ((memory.put? start bytes).map ((), ·)))

/-! ### The client in a memory -/

variable {κ : Type} (wire : Wire m κ) (spoil : Memory → Memory)

/-- Receives bytes into the places from `start` to `stop` and looks at them. A failure leaves the memory spoilt. -/
def receiveAt (k : κ) (start stop : Nat) : Access m (Except IoFault (List UInt8 × κ)) := do
  let _ ← look start stop
  match ← (wire.receive k (stop - start) : m _) with
  | .error cause =>
    modify spoil
    return .error cause
  | .ok (bytes, k) =>
    store start bytes
    return .ok (← look start stop, k)

/-- The header of bytes, place by place. -/
def headerAt (bytes : List UInt8) : Option (Except Fault Header) := do
  if bytes.length < Header.size then return .error (.headerTooShort bytes.length)
  return .ok ⟨wordOfBytes (← bytes[0]?) (← bytes[1]?), wordOfBytes (← bytes[2]?) (← bytes[3]?),
    wordOfBytes (← bytes[4]?) (← bytes[5]?), ← bytes[6]?⟩

/-- Gives up the connection after a fault. -/
def dropAt (k : κ) (c : Client κ) (cause : Fault) : Access m (Except Fault (List UInt8) × Client κ) :=
  liftM (Client.drop wire k c cause)

/-- Receives the PDU behind a header that was accepted, in the places behind the header. -/
def receivePduAt (k : κ) (c : Client κ) (length : Nat) : Access m (Except Fault (List UInt8) × Client κ) := do
  match ← receiveAt wire spoil k Header.size (Header.size + length) with
  | .error cause => dropAt wire k c (.receivePdu cause)
  | .ok (pdu, k) => return (checkException pdu, { c with connection := some k })

/-- Receives a reply to the last request. -/
def receiveReplyAt (k : κ) (c : Client κ) : Access m (Except Fault (List UInt8) × Client κ) := do
  match ← receiveAt wire spoil k 0 Header.size with
  | .error cause => dropAt wire k c (.receiveHeader cause)
  | .ok (bytes, k) =>
    match (← reach (headerAt bytes)) >>= (·.check c.transactionId c.endpoint.unitId) with
    | .error cause => return (.error cause, { c with connection := some k })
    | .ok length => receivePduAt wire spoil k c length

/-- Sends a request and receives its reply. -/
def requestAt (pdu : List UInt8) (c : Client κ) : Access m (Except Fault (List UInt8) × Client κ) := do
  match c.connection with
  | none => return (.error .notConnected, c)
  | some k =>
    let c := { c with transactionId := c.transactionId + 1 }
    let header := Header.forRequest c.transactionId c.endpoint.unitId pdu.length
    match ← (wire.send k (header.bytes ++ pdu) : m _) with
    | .error cause => dropAt wire k c (.send cause)
    | .ok k => receiveReplyAt wire spoil k c

/-- The registers in the reply to a read, place by place. -/
def readReplyAt (quantity : UInt16) (reply : List UInt8) : Option (Except Fault (List UInt16)) := do
  if reply.length < 2 then return .error .responseTooShort
  let function ← reply[0]?
  if function ≠ readFunction then return .error (.functionMismatch readFunction function)
  let count := (← reply[1]?).toNat
  if count ≠ quantity.toNat * 2 then return .error (.byteCount (quantity.toNat * 2) count)
  if reply.length < 2 + count then return .error (.missingData (2 + count))
  return .ok (wordsOfBytes ((reply.take (2 + count)).drop 2))

/-- Checks the reply to a write, place by place. -/
def writeReplyAt (address quantity : UInt16) (reply : List UInt8) : Option (Except Fault Unit) := do
  if reply.length < 5 then return .error .responseTooShort
  let function ← reply[0]?
  if function ≠ writeFunction then return .error (.functionMismatch writeFunction function)
  let foundAddress := wordOfBytes (← reply[1]?) (← reply[2]?)
  let foundQuantity := wordOfBytes (← reply[3]?) (← reply[4]?)
  if foundAddress ≠ address ∨ foundQuantity ≠ quantity then
    return .error (.echoMismatch foundAddress address foundQuantity quantity)
  return .ok ()

/-- Reads input registers. -/
def readAt (address quantity : UInt16) (c : Client κ) : Access m (Except FieldClock.Fault (List UInt16) × Client κ) := do
  if quantity.toNat = 0 ∨ quantity.toNat > maxReadRegisters then
    return (Client.failed (.registerCount quantity.toNat), c)
  else
    match ← requestAt wire spoil (readRequest address quantity) c with
    | (.error cause, c) => return (Client.failed cause, c)
    | (.ok reply, c) => return (Client.answer (← reach (readReplyAt quantity reply)), c)

/-- Writes holding registers. -/
def writeAt (address : UInt16) (values : List UInt16) (c : Client κ) :
    Access m (Except FieldClock.Fault Unit × Client κ) := do
  if values.length = 0 ∨ values.length > maxWriteRegisters then
    return (Client.failed (.registerCount values.length), c)
  else
    match ← requestAt wire spoil (writeRequest address values) c with
    | (.error cause, c) => return (Client.failed cause, c)
    | (.ok reply, c) => return (Client.answer (← reach (writeReplyAt address (UInt16.ofNat values.length) reply)), c)

/-- Puts a request to a device, with the replies in the memory. A write that succeeds answers with no registers. -/
def performAt : Request → Client κ → Access m (Except FieldClock.Fault (List UInt16) × Client κ)
  | .read address quantity, c => readAt wire spoil address quantity c
  | .write address values, c => do
    let (answer, c) ← writeAt wire spoil address values c
    return (answer.map fun _ => [], c)

end

/-! ### Places that are there -/

theorem headerAt_eq (bytes : List UInt8) : headerAt bytes = some (Header.ofBytes bytes) := by
  match bytes with
  | _ :: _ :: _ :: _ :: _ :: _ :: _ :: rest => simp [headerAt, Header.ofBytes, Header.size]
  | [] | [_] | [_, _] | [_, _, _] | [_, _, _, _] | [_, _, _, _, _] | [_, _, _, _, _, _] => rfl

theorem readReplyAt_eq (quantity : UInt16) (reply : List UInt8) :
    readReplyAt quantity reply = some (readReply quantity reply) := by
  match reply with
  | [] | [_] => rfl
  | function :: count :: data =>
    have data_eq : ((function :: count :: data).take (2 + count.toNat)).drop 2 = data.take count.toNat := by
      rw [Nat.add_comm, List.take_succ_cons, List.take_succ_cons]
      rfl
    have missing : (function :: count :: data).length < 2 + count.toNat ↔ data.length < count.toNat := by
      simp only [List.length_cons]
      omega
    have long : ¬ (function :: count :: data).length < 2 := by simp
    simp only [readReplyAt, readReply, if_neg long, List.getElem?_cons_zero, List.getElem?_cons_succ, Option.bind_eq_bind,
      Option.bind_some, data_eq, missing]
    split
    · rfl
    split
    · rfl
    split <;> rfl

theorem writeReplyAt_eq (address quantity : UInt16) (reply : List UInt8) :
    writeReplyAt address quantity reply = some (writeReply address quantity reply) := by
  match reply with
  | [] | [_] | [_, _] | [_, _, _] | [_, _, _, _] => rfl
  | function :: a₁ :: a₂ :: q₁ :: q₂ :: surplus =>
    have long : ¬ (function :: a₁ :: a₂ :: q₁ :: q₂ :: surplus).length < 5 := by simp
    simp only [writeReplyAt, writeReply, if_neg long, List.getElem?_cons_zero, List.getElem?_cons_succ, Option.bind_eq_bind,
      Option.bind_some]
    split
    · rfl
    split <;> rfl

/-! ### Likeness -/

theorem run_access_bind {π α β : Type} {x : Access (StateM π) α} {f : α → Access (StateM π) β} {a : α} {memory memory' : Memory}
    {p p' : π} (first : ((x.run memory).run).run p = (some (a, memory'), p')) :
    (((x >>= f).run memory).run).run p = (((f a).run memory').run).run p' := by
  rw [StateT.run_bind, OptionT.run_bind, Option.elimM, run_bind_of first]
  rfl

/-- An action with a memory is like one without if it succeeds on every memory, with the same result. -/
def inMemory (π : Type) : Likeness (Access (StateM π)) (StateM π) where
  Alike x y := ∀ memory p, ∃ memory', ((x.run memory).run).run p = (some ((y.run p).1, memory'), (y.run p).2)
  alike_pure a memory p := ⟨memory, rfl⟩
  alike_bind first next memory p := by
    obtain ⟨memory₁, run₁⟩ := first memory p
    obtain ⟨memory₂, run₂⟩ := next _ memory₁ _
    exact ⟨memory₂, (run_access_bind run₁).trans run₂⟩

section
variable {π κ : Type}

theorem alike_lift {α : Type} (x : StateM π α) : (inMemory π).Alike (liftM x) x := fun memory _ => ⟨memory, rfl⟩

theorem alike_reach_bind {α β : Type} {place : Option α} {a : α} {next : α → Access (StateM π) β} {y : StateM π β}
    (there : place = some a) (rest : (inMemory π).Alike (next a) y) : (inMemory π).Alike (reach place >>= next) y := by
  rw [there]
  exact rest

/-- A wire that receives just as many bytes as it is asked for. -/
def Exact (wire : Wire (StateM π) κ) : Prop :=
  ∀ k count p bytes k', ((wire.receive k count).run p).1 = .ok (bytes, k') → bytes.length = count

variable {wire : Wire (StateM π) κ} (spoil : Memory → Memory)

theorem run_lift {α : Type} {x : StateM π α} {a : α} {memory : Memory} {p p' : π} (got : x.run p = (a, p')) :
    (((liftM x : Access (StateM π) α).run memory).run).run p = (some (a, memory), p') := by
  show ((some ((x.run p).1, memory)), (x.run p).2) = _
  rw [got]

theorem run_look {memory : Memory} {start stop : Nat} {bytes : List UInt8} {p : π}
    (there : memory.slice? start stop = some bytes) :
    (((look start stop : Access (StateM π) _).run memory).run).run p = (some (bytes, memory), p) := by
  show ((memory.slice? start stop).map (·, memory), p) = _
  rw [there]
  rfl

theorem run_store {memory memory' : Memory} {start : Nat} {bytes : List UInt8} {p : π}
    (fits : memory.put? start bytes = some memory') :
    (((store start bytes : Access (StateM π) _).run memory).run).run p = (some ((), memory'), p) := by
  show ((memory.put? start bytes).map ((), ·), p) = _
  rw [fits]
  rfl

theorem alike_receiveAt (exact : Exact wire) (k : κ) {start stop : Nat} (ordered : start ≤ stop)
    (room : stop ≤ Header.size + Header.maxPdu) :
    (inMemory π).Alike (receiveAt wire spoil k start stop) (wire.receive k (stop - start)) := by
  intro memory p
  have there : memory.slice? start stop = some ((memory.bytes.take stop).drop start) :=
    if_pos ⟨ordered, by rw [memory.length_eq]; exact room⟩
  unfold receiveAt
  rw [run_access_bind (run_look there)]
  rcases got : (wire.receive k (stop - start)).run p with ⟨cause | ⟨bytes, k'⟩, p'⟩
  · refine ⟨spoil memory, ?_⟩
    rw [run_access_bind (run_lift got)]
    rfl
  · have length := exact k _ p bytes k' (congrArg Prod.fst got)
    obtain ⟨memory', fits, shown⟩ := memory.exists_put (show start + bytes.length ≤ _ by omega)
    rw [length, Nat.add_sub_cancel' ordered] at shown
    refine ⟨memory', ?_⟩
    rw [run_access_bind (run_lift got)]
    refine (run_access_bind (run_store fits)).trans ?_
    rw [run_access_bind (run_look shown)]
    rfl

/-! ### The client -/

theorem le_maxPdu {bytes : List UInt8} {transactionId : UInt16} {unitId : UInt8} {n : Nat}
    (checked : (Header.ofBytes bytes >>= (·.check transactionId unitId)) = .ok n) : n ≤ Header.maxPdu := by
  rcases parsed : Header.ofBytes bytes with cause | header <;> rw [parsed] at checked
  · cases checked
  · exact (Header.check_eq_ok_iff.mp checked).2.2.2

section
variable (exact : Exact wire) (k : κ) (c : Client κ)
include exact

theorem alike_receivePduAt {length : Nat} (small : length ≤ Header.maxPdu) :
    (inMemory π).Alike (receivePduAt wire spoil k c length) (Client.receivePdu wire k c length) := by
  have received := alike_receiveAt spoil exact k (Nat.le_add_right Header.size length) (Nat.add_le_add_left small _)
  rw [Nat.add_sub_cancel_left] at received
  refine (inMemory π).alike_bind received fun answer => ?_
  rcases answer with cause | ⟨pdu, k⟩
  · exact alike_lift _
  · exact (inMemory π).alike_pure _

theorem alike_receiveReplyAt : (inMemory π).Alike (receiveReplyAt wire spoil k c) (Client.receiveReply wire k c) := by
  refine (inMemory π).alike_bind (alike_receiveAt spoil exact k (Nat.zero_le _) (Nat.le_add_right _ _)) fun answer => ?_
  rcases answer with cause | ⟨bytes, k⟩
  · exact alike_lift _
  refine alike_reach_bind (headerAt_eq bytes) ?_
  simp only
  rcases checked : Header.ofBytes bytes >>= (·.check c.transactionId c.endpoint.unitId) with cause | length
  · exact (inMemory π).alike_pure _
  · exact alike_receivePduAt spoil exact k c (le_maxPdu checked)

theorem alike_requestAt (pdu : List UInt8) :
    (inMemory π).Alike (requestAt wire spoil pdu c) (Client.request wire pdu c) := by
  rcases c with ⟨endpoint, _ | k, number⟩
  · exact (inMemory π).alike_pure _
  refine (inMemory π).alike_bind (alike_lift (wire.send k _)) fun answer => ?_
  rcases answer with cause | k
  · exact alike_lift _
  · exact alike_receiveReplyAt spoil exact _ _

theorem alike_readAt (address quantity : UInt16) :
    (inMemory π).Alike (readAt wire spoil address quantity c) (Client.read wire address quantity c) := by
  unfold readAt Client.read
  split
  · exact (inMemory π).alike_pure _
  · refine (inMemory π).alike_bind (alike_requestAt spoil exact c _) fun answer => ?_
    rcases answer with ⟨cause | reply, c⟩
    · exact (inMemory π).alike_pure _
    · exact alike_reach_bind (readReplyAt_eq quantity reply) ((inMemory π).alike_pure _)

theorem alike_writeAt (address : UInt16) (values : List UInt16) :
    (inMemory π).Alike (writeAt wire spoil address values c) (Client.write wire address values c) := by
  unfold writeAt Client.write
  split
  · exact (inMemory π).alike_pure _
  · refine (inMemory π).alike_bind (alike_requestAt spoil exact c _) fun answer => ?_
    rcases answer with ⟨cause | reply, c⟩
    · exact (inMemory π).alike_pure _
    · exact alike_reach_bind (writeReplyAt_eq _ _ reply) ((inMemory π).alike_pure _)

/-- A client that receives in a memory never reaches for a place that is not there, and what is left in its memory makes no
    difference to it. -/
theorem alike_performAt (request : Request) :
    (inMemory π).Alike (performAt wire spoil request c) ((request.perform (Client.transport wire)).run c) := by
  cases request with
  | read address quantity => exact alike_readAt spoil exact c address quantity
  | write address values =>
    exact (inMemory π).alike_bind (alike_writeAt spoil exact c address values) fun _ => (inMemory π).alike_pure _

end

end

end FieldClock.Modbus
