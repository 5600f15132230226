import FieldClock.Proofs.Modbus.Receiving

/-!
# Frame alignment

Whether a client that talks to a peer of whole frames keeps to their boundaries. It does until the first reply whose header
does not answer its request: of that reply the client takes the header and leaves the PDU, and stays connected.
-/

namespace FieldClock.Modbus

/-! ### Peers of whole frames -/

/-- Frames that answer the requests numbered on from `n`, one each. -/
def AllAnswer (unitId : UInt8) : UInt16 → List Frame → Prop
  | _, [] => True
  | n, frame :: rest => frame.header.Answers (n + 1) unitId ∧ AllAnswer unitId (n + 1) rest

section
variable {ρ : Type}

/-- The wire to a peer that answers each request with one whole frame. The frames given are noted. -/
def framing (peer : List UInt8 → StateM ρ Frame) : Wire (StateM (ρ × List Frame)) Stream :=
  answering {} fun request s => (⟨((peer request).run s.1).1.bytes, false⟩,
    (((peer request).run s.1).2, s.2 ++ [((peer request).run s.1).1]))

/-- A client and its peer, with the frames that the peer has given. -/
structure Meeting (ρ : Type) where
  client : Client Stream
  peer : ρ
  given : List Frame

namespace Meeting

/-- What calls make of a meeting. -/
def after (m : Meeting ρ) (peer : List UInt8 → StateM ρ Frame) (calls : List Request) : Meeting ρ :=
  let ((_, client), (state, given)) :=
    ((Request.performAll (Client.transport (framing peer)) calls).run m.client).run (m.peer, m.given)
  ⟨client, state, given⟩

/-- A client is aligned if it has no connection or has taken a whole number of the frames given. -/
def Aligned (m : Meeting ρ) : Prop :=
  ∀ s, m.client.connection = some s →
    ∃ taken waiting, m.given = taken ++ waiting ∧ s.unread = waiting.flatMap Frame.bytes

variable {peer : List UInt8 → StateM ρ Frame} {m : Meeting ρ} {calls : List Request} {request : Request}

theorem after_cons : m.after peer (request :: calls) = (m.after peer [request]).after peer calls := rfl

/-! ### One call -/

theorem after_one {answer : Except FieldClock.Fault (List UInt16)} {c : Client Stream} {s : ρ × List Frame}
    (performed : ((request.perform (Client.transport (framing peer))).run m.client).run (m.peer, m.given) =
      ((answer, c), s)) : m.after peer [request] = ⟨c, s.1, s.2⟩ := by
  have run : ((Request.performAll (Client.transport (framing peer)) [request]).run m.client).run (m.peer, m.given) =
      (([answer], c), s) := by
    rw [Request.performAll, StateT.run_bind, StateT.run_bind, performed]
    rfl
  rw [after, run]

theorem after_illegal (illegal : ¬ request.Legal) : m.after peer [request] = m :=
  after_one (Request.run_perform_illegal illegal)

theorem after_unconnected (unconnected : m.client.connection = none) : m.after peer [request] = m := by
  by_cases legal : request.Legal
  · exact after_one (Request.run_perform legal (run_request_unconnected unconnected _))
  · exact after_illegal legal

/-- The frame that the peer gives next. -/
def reply (m : Meeting ρ) (peer : List UInt8 → StateM ρ Frame) (request : Request) : Frame :=
  ((peer (m.client.nextFrame request.pdu)).run m.peer).1

theorem after_legal {s : Stream} {got : Except Fault (List UInt8) × Client Stream} (legal : request.Legal)
    (connected : m.client.connection = some s)
    (received : Received m.client.numbered (s.extend ⟨(m.reply peer request).bytes, false⟩) got) :
    m.after peer [request] =
      ⟨got.2, ((peer (m.client.nextFrame request.pdu)).run m.peer).2, m.given ++ [m.reply peer request]⟩ :=
  after_one (Request.run_perform legal (run_request connected rfl received))

theorem exists_given (m : Meeting ρ) (peer : List UInt8 → StateM ρ Frame) (calls : List Request) :
    ∃ new, (m.after peer calls).given = m.given ++ new := by
  induction calls generalizing m with
  | nil => exact ⟨[], (List.append_nil _).symm⟩
  | cons request calls ih =>
    obtain ⟨new, hnew⟩ := ih (m.after peer [request])
    rw [after_cons, hnew]
    rcases connected : m.client.connection with _ | s
    · exact ⟨new, by rw [after_unconnected connected]⟩
    by_cases legal : request.Legal
    · obtain ⟨got, received⟩ := exists_received m.client.numbered (s.extend ⟨(m.reply peer request).bytes, false⟩)
      rw [after_legal legal connected received]
      exact ⟨_ :: new, List.append_assoc _ _ _⟩
    · exact ⟨new, by rw [after_illegal legal]⟩

/-! ### A call with nothing left over -/

theorem after_answered (legal : request.Legal) (fresh : m.client.connection = some {})
    (answers : (m.reply peer request).header.Answers (m.client.transactionId + 1) m.client.endpoint.unitId) :
    m.after peer [request] =
      ⟨{ m.client.numbered with connection := some {} }, ((peer (m.client.nextFrame request.pdu)).run m.peer).2,
        m.given ++ [m.reply peer request]⟩ :=
  after_legal legal fresh (.whole (List.append_nil _).symm answers)

theorem after_refused (legal : request.Legal) (fresh : m.client.connection = some {})
    (foreign : ¬ (m.reply peer request).header.Answers (m.client.transactionId + 1) m.client.endpoint.unitId) :
    m.after peer [request] =
      ⟨{ m.client.numbered with connection := some ⟨(m.reply peer request).pdu, false⟩ },
        ((peer (m.client.nextFrame request.pdu)).run m.peer).2, m.given ++ [m.reply peer request]⟩ := by
  rcases check : (m.reply peer request).header.check (m.client.transactionId + 1) m.client.endpoint.unitId with
    cause | n
  · exact after_legal legal fresh (.refused rfl check)
  · exact absurd (Header.check_eq_ok_iff.mp check).1 foreign

theorem aligned_of_fresh (fresh : m.client.connection = some {}) : m.Aligned := by
  intro s connected
  obtain rfl := Option.some.inj (fresh.symm.trans connected)
  exact ⟨m.given, [], (List.append_nil _).symm, rfl⟩

theorem not_aligned {frame : Frame} {given : List Frame} (left : m.client.connection = some ⟨frame.pdu, false⟩)
    (last : m.given = given ++ [frame]) : ¬ m.Aligned := by
  -- The PDU is not empty, and it is shorter than any run of whole frames that ends with its own.
  intro aligned
  obtain ⟨taken, waiting, split, unread⟩ := aligned _ left
  rcases waiting.eq_nil_or_concat with rfl | ⟨front, frame', rfl⟩
  · have pos := frame.pdu_pos
    rw [show frame.pdu = [] from unread] at pos
    cases pos
  · rw [last, List.concat_eq_append, ← List.append_assoc] at split
    obtain ⟨-, same⟩ := List.append_inj' split rfl
    obtain rfl := List.singleton_inj.mp same
    have long := congrArg List.length (show frame.pdu = _ from unread)
    rw [List.concat_eq_append, List.flatMap_append, List.length_append, List.flatMap_singleton, Frame.bytes,
      List.length_append, Header.bytes_length, Header.size] at long
    omega

theorem forall_aligned_cons (aligned : m.Aligned) :
    (∀ done, done <+: request :: calls → (m.after peer done).Aligned) ↔
      ∀ done, done <+: calls → ((m.after peer [request]).after peer done).Aligned := by
  constructor
  · intro all done prior
    exact all (request :: done) (List.cons_prefix_cons.mpr ⟨rfl, prior⟩)
  · intro all done prior
    rcases List.prefix_cons_iff.mp prior with rfl | ⟨rest, rfl, behind⟩
    · exact aligned
    · exact all rest behind

theorem new_eq_cons {all given new rest : List Frame} {frame : Frame} (h : all = given ++ new)
    (h' : all = given ++ [frame] ++ rest) : frame :: rest = new := by
  rw [h, List.append_assoc] at h'
  exact (List.append_cancel_left h').symm

/-- A client with nothing left over keeps to the frames of its peer just if each of them answers its request. -/
theorem aligned_iff (fresh : m.client.connection = some {}) {new : List Frame}
    (given : (m.after peer calls).given = m.given ++ new) :
    (∀ done, done <+: calls → (m.after peer done).Aligned) ↔
      AllAnswer m.client.endpoint.unitId m.client.transactionId new := by
  -- Frames that answer leave nothing over, so the next call starts as this one did. The first that does not decides it.
  induction calls generalizing m new with
  | nil =>
    obtain rfl : [] = new := List.append_cancel_left ((List.append_nil _).trans given)
    simp only [AllAnswer, iff_true]
    rintro done none
    rw [List.prefix_nil.mp none]
    exact aligned_of_fresh fresh
  | cons request calls ih =>
    rw [forall_aligned_cons (aligned_of_fresh fresh)]
    rw [after_cons] at given
    by_cases legal : request.Legal
    · obtain ⟨rest, hrest⟩ := exists_given (m.after peer [request]) peer calls
      by_cases answers : (m.reply peer request).header.Answers (m.client.transactionId + 1) m.client.endpoint.unitId
      · rw [after_answered legal fresh answers] at given hrest ⊢
        obtain rfl := new_eq_cons given hrest
        rw [ih rfl hrest]
        exact (and_iff_right answers).symm
      · rw [after_refused legal fresh answers] at given hrest ⊢
        obtain rfl := new_eq_cons given hrest
        refine ⟨fun aligned => absurd (aligned [] List.nil_prefix) (not_aligned rfl rfl), ?_⟩
        rintro ⟨answered, -⟩
        exact absurd answered answers
    · rw [after_illegal legal] at given ⊢
      exact ih fresh given

end Meeting

end

/-- A client that is connected to a peer which has given nothing yet. -/
def Meeting.start {ρ : Type} (endpoint : Endpoint) (transactionId : UInt16) (state : ρ) : Meeting ρ :=
  ⟨⟨endpoint, some {}, transactionId⟩, state, []⟩

/-- After each of any calls on one connection, a client has either no connection or taken a whole number of the frames of
    its peer, just if each of these frames answers its request. -/
theorem aligned_iff_allAnswer {ρ : Type} (peer : List UInt8 → StateM ρ Frame) (state : ρ) (endpoint : Endpoint)
    (transactionId : UInt16) (calls : List Request) :
    (∀ done, done <+: calls → ((Meeting.start endpoint transactionId state).after peer done).Aligned) ↔
      AllAnswer endpoint.unitId transactionId ((Meeting.start endpoint transactionId state).after peer calls).given :=
  Meeting.aligned_iff rfl rfl

/-- A peer whose first frame belongs to another transaction. -/
def foreignFirst (_ : List UInt8) : StateM Bool Frame := fun later =>
  (⟨⟨if later then 2 else 99, 0, 5, 1⟩, [4, 2, 0, 7], by split <;> rfl, by decide, by decide⟩, true)

/-- The PDU of a frame that was rejected is taken for the header of the next reply. -/
theorem foreign_frame_misaligns :
    ¬ ((Meeting.start {} 0 false).after foreignFirst [.read 3 1]).Aligned ∧
      (((Request.performAll (Client.transport (framing foreignFirst)) [.read 3 1, .read 3 1]).run
          ⟨{}, some {}, 0⟩).run (false, [])).1.1 =
        [Client.failed (.transactionMismatch 1 99), Client.failed (.transactionMismatch 2 0x0402)] := by
  have last : ((Meeting.start {} 0 false).after foreignFirst [.read 3 1]).given = [] ++ [((foreignFirst []).run false).1] :=
    rfl
  exact ⟨Meeting.not_aligned rfl last, rfl⟩

end FieldClock.Modbus
