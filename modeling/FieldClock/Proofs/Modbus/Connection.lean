import FieldClock.Command.Program
import FieldClock.Proofs.Exchange.Conversation
import FieldClock.Proofs.Modbus.Actions

/-!
# Connections

When a client holds a connection. Success leaves it connected, closing and bytes that do not come leave it unconnected, and
every other fault leaves it as it was. A session leaves no transport connected, whatever it began with and whatever is done in
it.
-/

namespace FieldClock

/-! ### Sessions -/

/-- A transport keeps no connection over the end of a session, and a session that does not open has the fault of connecting. -/
structure Runner.Releases {m : Type → Type} [Monad m] {σ : Type} (r : Runner m σ) (t : Transport m) : Prop where
  released : ∀ {α : Type} (body : m α) (s : σ), (r.run t.isConnected (r.run (t.session body) s).2).1 = false
  refused : ∀ {α : Type} (body : m α) (s : σ) (fault : Fault),
    (r.run (t.session body) s).1 = .error fault ↔ (r.run t.connect s).1 = .error fault

theorem Runner.releases_of_close {m : Type → Type} [Monad m] {σ : Type} {r : Runner m σ} {t : Transport m}
    (closes : ∀ s, (r.run t.isConnected (r.run t.close s).2).1 = false) : r.Releases t where
  released body s := by
    rw [Transport.session, r.run_bind]
    rcases r.run t.connect s with ⟨fault | _, s'⟩
    · simp only [r.run_bind, r.run_pure, closes]
    · simp only [r.run_bind, r.run_pure, closes]
  refused body s fault := by
    rw [Transport.session, r.run_bind]
    rcases r.run t.connect s with ⟨cause | _, s'⟩
    · simp only [r.run_bind, r.run_pure, Except.error.injEq]
    · simp only [r.run_bind, r.run_pure, reduceCtorEq]

namespace Modbus

/-! ### Calls -/

/-- A call that was made: its answer, what was done on the wire for it, and what it left. -/
structure Made (σ κ : Type) where
  answer : Except FieldClock.Fault (List UInt16)
  acts : List (Act κ)
  client : Client κ
  network : σ

/-- Makes a call and notes what is done on the wire for it. -/
def Client.after {σ κ : Type} (c : Client κ) (wire : Wire (StateM σ) κ) (call : Call) (s : σ) : Made σ κ :=
  let ((answer, client), acts, network) := ((call.make (Client.transport wire.noting)).run c).run ([], s)
  { answer, acts, client, network }

/-- What becomes of the connection of a client in a call. -/
structure Settles {σ κ : Type} (c : Client κ) (call : Call) (s : σ) (made : Made σ κ) : Prop where
  opened : call ≠ .close → made.answer.isOk = true → made.client.isConnected = true
  closed : call = .close → made.client.isConnected = false
  broken : (∃ act ∈ made.acts, act.Breaks) → made.client.isConnected = false
  kept : call ≠ .close → made.answer.isOk = false → (∀ act ∈ made.acts, ¬ act.Breaks) →
    made.client.isConnected = c.isConnected
  /-- A connect that fails dials and does nothing else. -/
  unopened : call = .connect → made.answer.isOk = false →
    made.client = c ∧ ∃ cause, made.acts = [.dial c.endpoint (.error cause)]
  /-- A request that no frame can carry, or without a connection, does nothing at all. -/
  unasked : ∀ request, call.request? = some request → ¬ request.Legal ∨ c.isConnected = false →
    made.client = c ∧ made.acts = [] ∧ made.network = s

section
variable {κ : Type} {c c' : Client κ} {acts : List (Act κ)}

namespace Asks

variable {pdu : List UInt8} {reply : Except Fault (List UInt8)}

theorem broken (asks : Asks c pdu acts reply c') (breaks : ∃ act ∈ acts, act.Breaks) : c'.isConnected = false := by
  cases asks with
  | unconnected unheld => simp at breaks
  | unsent held => rfl
  | noHeader held => rfl
  | refused held fails => simp [Act.Breaks] at breaks
  | noPdu held passes => rfl
  | whole held passes => simp [Act.Breaks] at breaks

theorem kept (asks : Asks c pdu acts reply c') (whole : ∀ act ∈ acts, ¬ act.Breaks) : c'.isConnected = c.isConnected := by
  cases asks with
  | unconnected unheld => rfl
  | unsent held => simp [Act.Breaks] at whole
  | noHeader held => simp [Act.Breaks] at whole
  | refused held fails => simp [Client.isConnected, held]
  | noPdu held passes => simp [Act.Breaks] at whole
  | whole held passes => simp [Client.isConnected, held]

theorem opened (asks : Asks c pdu acts reply c') (answered : reply.isOk = true) : c'.isConnected = true := by
  cases asks with
  | whole held passes => rfl
  | _ => cases answered

theorem unasked (asks : Asks c pdu acts reply c') (unconnected : c.isConnected = false) : c' = c ∧ acts = [] := by
  have unheld : c.connection = none := by simpa [Client.isConnected] using unconnected
  cases asks with
  | unconnected => exact ⟨rfl, rfl⟩
  | _ held => simp [unheld] at held

end Asks

theorem Client.isOk_of_answer {α : Type} {reply : Except Fault (List UInt8)} {next : List UInt8 → Except Fault α}
    (answered : (Client.answer (reply >>= next)).isOk = true) : reply.isOk = true := by
  rcases reply with cause | pdu
  · cases answered
  · rfl

theorem not_control {call : Call} {request : Request} (asked : call.request? = some request) :
    call ≠ .connect ∧ call ≠ .close := by
  constructor <;> rintro rfl <;> cases asked

/-- A call that follows the rules does to the connection what it has to. -/
theorem Makes.settles {σ : Type} {call : Call} {answer : Except FieldClock.Fault (List UInt16)} {s s' : σ}
    (makes : Makes c call acts answer c') (untouched : acts = [] → s' = s) :
    Settles c call s { answer, acts, client := c', network := s' } := by
  cases makes with
  | unopened cause =>
    exact { opened := nofun, closed := nofun, broken := by simp [Act.Breaks], kept := fun _ _ _ => rfl,
            unopened := fun _ _ => ⟨rfl, cause, rfl⟩, unasked := nofun }
  | opened k =>
    exact { opened := fun _ _ => rfl, closed := nofun, broken := by simp [Act.Breaks], kept := nofun, unopened := nofun,
            unasked := nofun }
  | illegal asked illegal =>
    obtain ⟨notConnect, notClose⟩ := not_control asked
    exact { opened := nofun, closed := fun closes => absurd closes notClose, broken := by simp, kept := fun _ _ _ => rfl,
            unopened := fun connects => absurd connects notConnect, unasked := fun _ _ _ => ⟨rfl, rfl, untouched rfl⟩ }
  | legal asked legal asks =>
    obtain ⟨notConnect, notClose⟩ := not_control asked
    refine { opened := fun _ answered => asks.opened (Client.isOk_of_answer answered),
             closed := fun closes => absurd closes notClose, broken := asks.broken, kept := fun _ _ => asks.kept,
             unopened := fun connects => absurd connects notConnect, unasked := ?_ }
    intro request asked' refused
    obtain rfl := Option.some.inj (asked'.symm.trans asked)
    obtain ⟨same, silent⟩ := asks.unasked (refused.resolve_left (not_not_intro legal))
    exact ⟨same, silent, untouched silent⟩
  | closed =>
    exact { opened := nofun, closed := fun _ => rfl, broken := fun _ => rfl, kept := nofun, unopened := nofun,
            unasked := nofun }

end

theorem run_make_eq_after {σ κ : Type} (wire : Wire (StateM σ) κ) (c : Client κ) (call : Call) (s : σ) :
    ((call.make (Client.transport wire)).run c).run s =
      (((c.after wire call s).answer, (c.after wire call s).client), (c.after wire call s).network) := by
  obtain ⟨acts, run⟩ := alike_make (wires_noting wire).transports call c [] s
  rw [Client.after, run]
  rfl

/-- Whatever the network does, each call of a client in any state leaves it connected or not by what came of the call; and no
    transport of a device keeps a connection over the end of a session. -/
theorem connection_settled {σ κ : Type} (wire : Wire (StateM σ) κ) :
    (∀ (c : Client κ) (call : Call) (s : σ), Settles c call s (c.after wire call s) ∧
      ((call.make (Client.transport wire)).run c).run s =
        (((c.after wire call s).answer, (c.after wire call s).client), (c.after wire call s).network)) ∧
      (Runner.stacked (Client κ) σ).Releases (Client.transport wire) ∧
      (Runner.stacked SimulatedClock σ).Releases SimulatedClock.transport ∧
      (Runner.stacked (Command.Device κ) σ).Releases (Command.deviceTransport wire) := by
  refine ⟨?_, Runner.releases_of_close ?_, Runner.releases_of_close ?_, Runner.releases_of_close ?_⟩
  · intro c call s
    refine ⟨?_, run_make_eq_after wire c call s⟩
    obtain ⟨new, added, makes, untouched⟩ := follows_make wire c [] s call
    rw [List.nil_append] at added
    rw [← added] at makes untouched
    exact makes.settles untouched
  · rintro ⟨⟨endpoint, _ | k, n⟩, s⟩ <;> rfl
  · rintro ⟨d, s⟩
    rfl
  · rintro ⟨d | ⟨endpoint, _ | k, n⟩, s⟩ <;> rfl

end Modbus

end FieldClock
