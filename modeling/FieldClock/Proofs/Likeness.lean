import FieldClock.Command.Program

/-!
# Likeness

A way for actions of two monads to be alike that lasts when they are put together. A program that leaves its monad open does
nothing to its parts but put them together, so on like transports, clocks and wires its runs are alike as well.
-/

namespace FieldClock

/-- An action runs behind another one from the state that this one leaves. -/
theorem run_bind_of {σ α β : Type} {act : StateM σ α} {next : α → StateM σ β} {s s' : σ} {a : α} (first : act.run s = (a, s')) :
    (act >>= next).run s = (next a).run s' := by
  rw [StateT.run_bind, first]
  rfl

/-- A relation of actions that holds of pure ones and lasts through binding. -/
structure Likeness (m n : Type → Type) [Monad m] [Monad n] where
  Alike : {α : Type} → m α → n α → Prop
  alike_pure : ∀ {α : Type} (a : α), Alike (pure a) (pure a)
  alike_bind : ∀ {α β : Type} {x : m α} {y : n α} {f : α → m β} {g : α → n β},
    Alike x y → (∀ a, Alike (f a) (g a)) → Alike (x >>= f) (y >>= g)

namespace Likeness

variable {m n : Type → Type} [Monad m] [Monad n]

/-- The same likeness for actions that have a state besides. -/
def stateful (ℓ : Likeness m n) (σ : Type) : Likeness (StateT σ m) (StateT σ n) where
  Alike x y := ∀ s, ℓ.Alike (x.run s) (y.run s)
  alike_pure a s := ℓ.alike_pure (a, s)
  alike_bind first next s := ℓ.alike_bind (first s) fun result => next result.1 result.2

variable (ℓ : Likeness m n)

/-- Transports whose calls are alike. -/
structure Transports (t : Transport m) (u : Transport n) : Prop where
  connect : ℓ.Alike t.connect u.connect
  read : ∀ address quantity, ℓ.Alike (t.read address quantity) (u.read address quantity)
  write : ∀ address values, ℓ.Alike (t.write address values) (u.write address values)
  close : ℓ.Alike t.close u.close
  isConnected : ℓ.Alike t.isConnected u.isConnected

/-- Clocks that show the same and wait alike. -/
structure Clocks (c : Clock m) (d : Clock n) : Prop where
  now : ℓ.Alike c.now d.now
  pause : ∀ duration, ℓ.Alike (c.pause duration) (d.pause duration)

/-- Wires on which connections are opened, used and given up alike. -/
structure Wires {κ : Type} (w : Modbus.Wire m κ) (v : Modbus.Wire n κ) : Prop where
  dial : ∀ endpoint, ℓ.Alike (w.dial endpoint) (v.dial endpoint)
  send : ∀ connection bytes, ℓ.Alike (w.send connection bytes) (v.send connection bytes)
  receive : ∀ connection count, ℓ.Alike (w.receive connection count) (v.receive connection count)
  hangUp : ∀ connection, ℓ.Alike (w.hangUp connection) (v.hangUp connection)

variable {ℓ}

/-! ### The exchange -/

section
variable {t : Transport m} {u : Transport n} {c : Clock m} {d : Clock n}

/-- Sessions are alike whose calls and whose bodies are. -/
theorem Transports.session {α : Type} {x : m α} {y : n α} (calls : ℓ.Transports t u) (body : ℓ.Alike x y) :
    ℓ.Alike (t.session x) (u.session y) := by
  refine ℓ.alike_bind calls.connect fun opened => ?_
  rcases opened with fault | _
  · exact ℓ.alike_bind calls.close fun _ => ℓ.alike_pure _
  · exact ℓ.alike_bind body fun answer => ℓ.alike_bind calls.close fun _ => ℓ.alike_pure _

theorem Transports.readClock (calls : ℓ.Transports t u) (layout : RegisterMap) :
    ℓ.Alike (readClock t layout) (readClock u layout) := by
  refine ℓ.alike_bind (calls.read _ _) fun answer => ?_
  rcases answer with cause | registers
  · exact ℓ.alike_pure _
  · simp only
    rcases DeviceTime.ofRegisters registers with cause | time <;> exact ℓ.alike_pure _

theorem Transports.writeClock (calls : ℓ.Transports t u) (layout : RegisterMap) (time : DeviceTime) :
    ℓ.Alike (writeClock t layout time) (writeClock u layout time) := by
  refine ℓ.alike_bind (calls.write _ _) fun answer => ?_
  rcases answer with cause | _
  · exact ℓ.alike_pure _
  show ℓ.Alike (writeMilliseconds t layout time) (writeMilliseconds u layout time)
  unfold writeMilliseconds
  split
  · refine ℓ.alike_bind (calls.write _ _) fun answer => ?_
    rcases answer with cause | _ <;> exact ℓ.alike_pure _
  · exact ℓ.alike_pure _

theorem Transports.verifyClock (calls : ℓ.Transports t u) (layout : RegisterMap) (before host : DeviceTime) :
    ℓ.Alike (verifyClock t layout before host) (verifyClock u layout before host) := by
  refine ℓ.alike_bind (calls.readClock layout) fun shown => ?_
  rcases shown with failure | after <;> exact ℓ.alike_pure _

theorem Transports.exchangeOpen (calls : ℓ.Transports t u) (times : ℓ.Clocks c d) (layout : RegisterMap) (settle : Duration) :
    ℓ.Alike (exchangeOpen t c layout settle) (exchangeOpen u d layout settle) := by
  refine ℓ.alike_bind (calls.readClock layout) fun shown => ?_
  rcases shown with failure | before
  · exact ℓ.alike_pure _
  refine ℓ.alike_bind times.now fun now => ℓ.alike_bind (calls.writeClock layout _) fun written => ?_
  rcases written with failure | _
  · exact ℓ.alike_pure _
  -- The two sides wait or not by the same settings.
  cases settle.isZero with
  | true =>
    simp only [if_true]
    exact calls.verifyClock _ _ _
  | false =>
    simp only [Bool.false_eq_true, if_false]
    exact ℓ.alike_bind (times.pause _) fun _ => calls.verifyClock _ _ _

/-- Exchanges are alike on transports and clocks that are. -/
theorem Transports.exchange (calls : ℓ.Transports t u) (times : ℓ.Clocks c d) (settings : Settings) :
    ℓ.Alike (exchange t c settings) (exchange u d settings) := by
  refine ℓ.alike_bind (calls.session (calls.exchangeOpen times _ _)) fun answer => ?_
  rcases answer with cause | outcome <;> exact ℓ.alike_pure _

end

/-! ### The client -/

section
open Modbus
variable {κ : Type} {w : Wire m κ} {v : Wire n κ}

theorem Wires.connect (wires : ℓ.Wires w v) (c : Client κ) : ℓ.Alike (c.connect w) (c.connect v) := by
  refine ℓ.alike_bind (wires.dial _) fun answer => ?_
  rcases answer with cause | k
  · exact ℓ.alike_pure _
  · rcases c with ⟨endpoint, _ | old, number⟩
    · exact ℓ.alike_pure _
    · exact ℓ.alike_bind (wires.hangUp old) fun _ => ℓ.alike_pure _

theorem Wires.drop (wires : ℓ.Wires w v) (k : κ) (c : Client κ) (cause : Modbus.Fault) :
    ℓ.Alike (Client.drop w k c cause) (Client.drop v k c cause) :=
  ℓ.alike_bind (wires.hangUp k) fun _ => ℓ.alike_pure _

theorem Wires.receivePdu (wires : ℓ.Wires w v) (k : κ) (c : Client κ) (length : Nat) :
    ℓ.Alike (Client.receivePdu w k c length) (Client.receivePdu v k c length) := by
  refine ℓ.alike_bind (wires.receive k length) fun answer => ?_
  rcases answer with cause | ⟨pdu, k⟩
  · exact wires.drop _ _ _
  · exact ℓ.alike_pure _

theorem Wires.receiveReply (wires : ℓ.Wires w v) (k : κ) (c : Client κ) :
    ℓ.Alike (Client.receiveReply w k c) (Client.receiveReply v k c) := by
  refine ℓ.alike_bind (wires.receive k _) fun answer => ?_
  rcases answer with cause | ⟨header, k⟩
  · exact wires.drop _ _ _
  simp only
  rcases Header.ofBytes header >>= (·.check c.transactionId c.endpoint.unitId) with cause | length
  · exact ℓ.alike_pure _
  · exact wires.receivePdu _ _ _

/-- A request is alike on both wires, whatever comes back, since every step of it is a call to the wire or decided alike. -/
theorem Wires.request (wires : ℓ.Wires w v) (pdu : List UInt8) (c : Client κ) :
    ℓ.Alike (Client.request w pdu c) (Client.request v pdu c) := by
  rcases c with ⟨endpoint, _ | k, number⟩
  · exact ℓ.alike_pure _
  refine ℓ.alike_bind (wires.send k _) fun answer => ?_
  rcases answer with cause | k
  · exact wires.drop _ _ _
  · exact wires.receiveReply _ _

theorem Wires.read (wires : ℓ.Wires w v) (address quantity : UInt16) (c : Client κ) :
    ℓ.Alike (Client.read w address quantity c) (Client.read v address quantity c) := by
  unfold Client.read
  split
  · exact ℓ.alike_pure _
  · exact ℓ.alike_bind (wires.request _ c) fun _ => ℓ.alike_pure _

theorem Wires.write (wires : ℓ.Wires w v) (address : UInt16) (values : List UInt16) (c : Client κ) :
    ℓ.Alike (Client.write w address values c) (Client.write v address values c) := by
  unfold Client.write
  split
  · exact ℓ.alike_pure _
  · exact ℓ.alike_bind (wires.request _ c) fun _ => ℓ.alike_pure _

theorem Wires.close (wires : ℓ.Wires w v) (c : Client κ) : ℓ.Alike (c.close w) (c.close v) := by
  rcases c with ⟨endpoint, _ | k, number⟩
  · exact ℓ.alike_pure _
  · exact ℓ.alike_bind (wires.hangUp k) fun _ => ℓ.alike_pure _

/-- The clients of like wires are like transports. -/
theorem Wires.transports (wires : ℓ.Wires w v) :
    (ℓ.stateful (Client κ)).Transports (Client.transport w) (Client.transport v) where
  connect c := wires.connect c
  read address quantity c := wires.read address quantity c
  write address values c := wires.write address values c
  close c := ℓ.alike_bind (wires.close c) fun _ => ℓ.alike_pure _
  isConnected _ := ℓ.alike_pure _

end

/-! ### Devices -/

/-- A simulated device needs nothing of the monad around it, so it is like itself in any two. -/
theorem transports_simulated : (ℓ.stateful SimulatedClock).Transports SimulatedClock.transport SimulatedClock.transport where
  connect _ := ℓ.alike_pure _
  read _ _ _ := ℓ.alike_pure _
  write _ _ _ := ℓ.alike_pure _
  close _ := ℓ.alike_pure _
  isConnected _ := ℓ.alike_pure _

theorem alike_onEither {σ τ α : Type} {x : StateT σ m α} {y : StateT σ n α} {x' : StateT τ m α} {y' : StateT τ n α}
    (left : (ℓ.stateful σ).Alike x y) (right : (ℓ.stateful τ).Alike x' y') :
    (ℓ.stateful (σ ⊕ τ)).Alike (Transport.onEither x x') (Transport.onEither y y')
  | .inl s => ℓ.alike_bind (left s) fun _ => ℓ.alike_pure _
  | .inr s => ℓ.alike_bind (right s) fun _ => ℓ.alike_pure _

theorem Transports.either {σ τ : Type} {t : Transport (StateT σ m)} {u : Transport (StateT σ n)}
    {t' : Transport (StateT τ m)} {u' : Transport (StateT τ n)} (left : (ℓ.stateful σ).Transports t u)
    (right : (ℓ.stateful τ).Transports t' u') : (ℓ.stateful (σ ⊕ τ)).Transports (.either t t') (.either u u') where
  connect := alike_onEither left.connect right.connect
  read address quantity := alike_onEither (left.read address quantity) (right.read address quantity)
  write address values := alike_onEither (left.write address values) (right.write address values)
  close := alike_onEither left.close right.close
  isConnected := alike_onEither left.isConnected right.isConnected

/-! ### Visits -/

theorem Clocks.stateful {c : Clock m} {d : Clock n} (times : ℓ.Clocks c d) (σ : Type) :
    (ℓ.stateful σ).Clocks c.lift d.lift where
  now _ := ℓ.alike_bind times.now fun _ => ℓ.alike_pure _
  pause duration _ := ℓ.alike_bind (times.pause duration) fun _ => ℓ.alike_pure _

/-- Visits to one device from the same state of it are alike. -/
theorem Transports.visit {σ : Type} {t : Transport (StateT σ m)} {u : Transport (StateT σ n)} {c : Clock m} {d : Clock n}
    (calls : (ℓ.stateful σ).Transports t u) (times : ℓ.Clocks c d) (settings : Settings) (target : Target) (s : σ) :
    ℓ.Alike (visit t c settings target s) (visit u d settings target s) :=
  ℓ.alike_bind (calls.exchange (times.stateful σ) settings s) fun _ => ℓ.alike_pure _

theorem Wires.deviceTransports {κ : Type} {w : Modbus.Wire m κ} {v : Modbus.Wire n κ} (wires : ℓ.Wires w v) :
    (ℓ.stateful (Command.Device κ)).Transports (Command.deviceTransport w) (Command.deviceTransport v) :=
  transports_simulated.either wires.transports

theorem Clocks.device {c : Clock m} {d : Clock n} (times : ℓ.Clocks c d) (κ : Type) (settings : Settings) (simulated : Bool)
    (target : Target) :
    ℓ.Alike (Command.device c settings simulated target : m (Command.Device κ))
      (Command.device d settings simulated target) := by
  cases simulated with
  | true => exact ℓ.alike_bind times.now fun _ => ℓ.alike_pure _
  | false => exact ℓ.alike_pure _

/-! ### Programs -/

theorem Wires.stateful {κ : Type} {w : Modbus.Wire m κ} {v : Modbus.Wire n κ} (wires : ℓ.Wires w v) (σ : Type) :
    (ℓ.stateful σ).Wires w.lift v.lift where
  dial endpoint _ := ℓ.alike_bind (wires.dial endpoint) fun _ => ℓ.alike_pure _
  send k bytes _ := ℓ.alike_bind (wires.send k bytes) fun _ => ℓ.alike_pure _
  receive k count _ := ℓ.alike_bind (wires.receive k count) fun _ => ℓ.alike_pure _
  hangUp k _ := ℓ.alike_bind (wires.hangUp k) fun _ => ℓ.alike_pure _

/-- A round is alike whose devices are built and whose reports are told alike, by induction on the places still to visit. -/
theorem Transports.round {σ : Type} {t : Transport (StateT σ m)} {u : Transport (StateT σ n)} {c : Clock m} {d : Clock n}
    (calls : (ℓ.stateful σ).Transports t u) (times : ℓ.Clocks c d) (settings : Settings) {build : Target → m σ}
    {build' : Target → n σ} (built : ∀ target, ℓ.Alike (build target) (build' target)) {notify : Report → m Unit}
    {notify' : Report → n Unit} (notified : ∀ report, ℓ.Alike (notify report) (notify' report)) (targets : List Target) :
    ℓ.Alike (round t c settings build notify targets) (round u d settings build' notify' targets) := by
  induction targets with
  | nil => exact ℓ.alike_pure _
  | cons target rest ih =>
    exact ℓ.alike_bind (built target) fun device => ℓ.alike_bind (calls.visit times settings target device) fun done =>
      ℓ.alike_bind (notified done.report) fun _ => ℓ.alike_bind ih fun _ => ℓ.alike_pure _

variable (ℓ) in
/-- Surroundings that are alike in all that a program uses of them. -/
structure Worlds {κ : Type} (w : Command.Surroundings m κ) (v : Command.Surroundings n κ) : Prop where
  contents : ∀ path, ℓ.Alike (w.contents path) (v.contents path)
  isThere : ∀ path, ℓ.Alike (w.isThere path) (v.isThere path)
  lookUp : ∀ name, ℓ.Alike (w.lookUp name) (v.lookUp name)
  clock : ℓ.Clocks w.clock v.clock
  wire : ℓ.Wires w.wire v.wire
  print : ∀ text, ℓ.Alike (w.print text) (v.print text)
  complain : ∀ text, ℓ.Alike (w.complain text) (v.complain text)
  flush : ℓ.Alike w.flush v.flush

section
open Command
variable {κ : Type} {w : Surroundings m κ} {v : Surroundings n κ}

theorem Worlds.loadFile (worlds : ℓ.Worlds w v) (name path : String) :
    ℓ.Alike (loadFile w name path) (loadFile v name path) := by
  refine ℓ.alike_bind (worlds.contents path) fun answer => ?_
  rcases Settings.ofFile path answer with fault | settings <;> exact ℓ.alike_pure _

theorem Worlds.load (worlds : ℓ.Worlds w v) (options : Options) : ℓ.Alike (load w options) (load v options) := by
  unfold Command.load
  rcases options.config with _ | path
  · refine ℓ.alike_bind (worlds.lookUp _) fun named => ?_
    rcases named with _ | path
    · exact ℓ.alike_pure _
    · refine ℓ.alike_bind (worlds.isThere path) fun there => ?_
      cases there with
      | true => exact worlds.loadFile _ path
      | false => exact ℓ.alike_pure _
  · exact worlds.loadFile path path

theorem Worlds.writeReport (worlds : ℓ.Worlds w v) (layout : RegisterMap) (format : Format) (report : Report) :
    (ℓ.stateful Written).Alike (writeReport w.print layout format report) (writeReport v.print layout format report) := by
  refine (ℓ.stateful Written).alike_bind (fun _ => ℓ.alike_pure _) fun written => ?_
  rcases written with fault | _
  · exact (ℓ.stateful Written).alike_pure _
  · exact (ℓ.stateful Written).alike_bind (fun _ => ℓ.alike_bind (worlds.print _) fun _ => ℓ.alike_pure _)
      fun _ _ => ℓ.alike_pure _

theorem Worlds.visitAll (worlds : ℓ.Worlds w v) (settings : Settings) (simulated : Bool) (format : Format) :
    (ℓ.stateful Written).Alike (visitAll w settings simulated format) (visitAll v settings simulated format) :=
  (worlds.wire.stateful Written).deviceTransports.round (worlds.clock.stateful Written) settings
    ((worlds.clock.stateful Written).device κ settings simulated) (worlds.writeReport settings.registers format) _

/-- Whole runs are alike in worlds that are, up to passing the reports on. -/
theorem Worlds.synchronise (worlds : ℓ.Worlds w v) (settings : Settings) (simulated : Bool) (format : Format) :
    ℓ.Alike (synchronise w settings simulated format) (synchronise v settings simulated format) := by
  have headed : ℓ.Alike (writeHeading w.print settings format) (writeHeading v.print settings format) := by
    unfold writeHeading
    rcases format.heading? settings with _ | text
    · exact ℓ.alike_pure _
    · exact worlds.print text
  refine ℓ.alike_bind headed fun written => ?_
  rcases written with fault | _
  · exact ℓ.alike_pure _
  refine ℓ.alike_bind (worlds.visitAll settings simulated format (.ok ())) fun visited => ?_
  rcases visited with ⟨visits, fault | _⟩
  · exact ℓ.alike_pure _
  · exact worlds.flush

theorem Worlds.stop (worlds : ℓ.Worlds w v) (complaint : Complaint) : ℓ.Alike (stop w complaint) (stop v complaint) :=
  ℓ.alike_bind (worlds.complain _) fun _ => ℓ.alike_pure _

theorem Worlds.runOptions (worlds : ℓ.Worlds w v) (options : Options) :
    ℓ.Alike (runOptions w options) (runOptions v options) := by
  have settled : ℓ.Alike (effectiveSettings w options) (effectiveSettings v options) := by
    refine ℓ.alike_bind (worlds.load options) fun loaded => ?_
    rcases loaded with complaint | settings <;> exact ℓ.alike_pure _
  refine ℓ.alike_bind settled fun effective => ?_
  rcases effective with complaint | settings
  · exact worlds.stop complaint
  refine ℓ.alike_bind (worlds.synchronise settings _ _) fun written => ?_
  rcases written with fault | _
  · exact worlds.stop _
  · exact ℓ.alike_pure _

/-- Programs are alike in worlds that are. -/
theorem Worlds.run (worlds : ℓ.Worlds w v) (words : List String) : ℓ.Alike (run w words) (run v words) := by
  unfold Command.run
  rcases Options.ofWords words with stop | options
  · cases stop with
    | fault cause => exact ℓ.alike_bind (worlds.complain _) fun _ => ℓ.alike_pure _
    | version => exact ℓ.alike_bind (worlds.print _) fun _ => ℓ.alike_pure _
    | help => exact ℓ.alike_bind (worlds.print _) fun _ => ℓ.alike_pure _
  · exact worlds.runOptions options

end

end Likeness

end FieldClock
