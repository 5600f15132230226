import FieldClock.Proofs.Likeness
import FieldClock.Proofs.Modbus.Actions

/-!
# Deeds

All that a program does in its surroundings, in order. Noting it changes nothing, and what is noted does not depend on the
notes before it.
-/

namespace FieldClock.Command

/-- Something that a program does in its surroundings, with what came of it. -/
inductive Deed (κ : Type) where
  | contents (path : String) (answer : Except FileFault ByteArray)
  | isThere (path : String) (answer : Bool)
  | lookUp (name : String) (answer : Option String)
  | now (answer : Instant)
  | pause (duration : Duration)
  | act (act : Modbus.Act κ)
  | print (text : String) (answer : Written)
  | complain (text : String)
  | flush (answer : Written)

section
variable {σ κ α : Type}

/-- An action that is noted. -/
def noting (act : StateM σ α) (deed : α → Deed κ) : StateM (List (Deed κ) × σ) α := fun (deeds, s) =>
  let (a, s) := act.run s
  (a, deeds ++ [deed a], s)

/-- Surroundings in which all deeds are noted. -/
def Surroundings.noting (world : Surroundings (StateM σ) κ) : Surroundings (StateM (List (Deed κ) × σ)) κ where
  contents path := Command.noting (world.contents path) (.contents path)
  isThere path := Command.noting (world.isThere path) (.isThere path)
  lookUp name := Command.noting (world.lookUp name) (.lookUp name)
  clock := {
    now := Command.noting world.clock.now .now
    pause := fun duration => Command.noting (world.clock.pause duration) fun _ => .pause duration }
  wire := {
    dial := fun endpoint => Command.noting (world.wire.dial endpoint) fun answer => .act (.dial endpoint answer)
    send := fun k bytes => Command.noting (world.wire.send k bytes) fun answer => .act (.send k bytes answer)
    receive := fun k count => Command.noting (world.wire.receive k count) fun answer => .act (.receive k count answer)
    hangUp := fun k => Command.noting (world.wire.hangUp k) fun _ => .act (.hangUp k) }
  print text := Command.noting (world.print text) (.print text)
  complain text := Command.noting (world.complain text) fun _ => .complain text
  flush := Command.noting world.flush .flush

theorem run_noting {act : StateM σ α} {deed : α → Deed κ} {deeds : List (Deed κ)} {s s' : σ} {a : α}
    (done : act.run s = (a, s')) : (noting act deed).run (deeds, s) = (a, deeds ++ [deed a], s') := by
  show ((act.run s).1, deeds ++ [deed (act.run s).1], (act.run s).2) = _
  rw [done]

/-- Notes change nothing. -/
theorem worlds_noting (world : Surroundings (StateM σ) κ) :
    (Modbus.noted (List (Deed κ)) σ).Worlds world.noting world where
  contents _ _ _ := ⟨_, rfl⟩
  isThere _ _ _ := ⟨_, rfl⟩
  lookUp _ _ _ := ⟨_, rfl⟩
  clock := ⟨fun _ _ => ⟨_, rfl⟩, fun _ _ _ => ⟨_, rfl⟩⟩
  wire := ⟨fun _ _ _ => ⟨_, rfl⟩, fun _ _ _ _ => ⟨_, rfl⟩, fun _ _ _ _ => ⟨_, rfl⟩, fun _ _ _ => ⟨_, rfl⟩⟩
  print _ _ _ := ⟨_, rfl⟩
  complain _ _ _ := ⟨_, rfl⟩
  flush _ _ := ⟨_, rfl⟩

/-- Actions that put notes behind those there are, whatever these say. -/
def appending (δ σ : Type) : Likeness (StateM (List δ × σ)) (StateM (List δ × σ)) where
  Alike x y := x = y ∧ ∀ s, ∃ a more s', ∀ notes, x.run (notes, s) = (a, notes ++ more, s')
  alike_pure a := ⟨rfl, fun s => ⟨a, [], s, fun notes => congrArg (fun notes => (a, notes, s)) (List.append_nil notes).symm⟩⟩
  alike_bind := by
    rintro α β x _ f g ⟨rfl, first⟩ next
    obtain rfl : f = g := funext fun a => (next a).1
    refine ⟨rfl, fun s => ?_⟩
    obtain ⟨a, more, s₁, run⟩ := first s
    obtain ⟨b, more', s₂, run'⟩ := (next a).2 s₁
    refine ⟨b, more ++ more', s₂, fun notes => ?_⟩
    rw [run_bind_of (run notes), run', List.append_assoc]

theorem alike_noting (act : StateM σ α) (deed : α → Deed κ) :
    (appending (Deed κ) σ).Alike (noting act deed) (noting act deed) :=
  ⟨rfl, fun _ => ⟨_, _, _, fun _ => rfl⟩⟩

theorem worlds_appending (world : Surroundings (StateM σ) κ) : (appending (Deed κ) σ).Worlds world.noting world.noting where
  contents _ := alike_noting _ _
  isThere _ := alike_noting _ _
  lookUp _ := alike_noting _ _
  clock := ⟨alike_noting _ _, fun duration => alike_noting (world.clock.pause duration) fun _ => .pause duration⟩
  wire := {
    dial := fun endpoint => alike_noting (world.wire.dial endpoint) fun answer => .act (.dial endpoint answer)
    send := fun k bytes => alike_noting (world.wire.send k bytes) fun answer => .act (.send k bytes answer)
    receive := fun k count => alike_noting (world.wire.receive k count) fun answer => .act (.receive k count answer)
    hangUp := fun k => alike_noting (world.wire.hangUp k) fun _ => .act (.hangUp k) }
  print _ := alike_noting _ _
  complain text := alike_noting (world.complain text) fun _ => .complain text
  flush := alike_noting _ _

end

end FieldClock.Command
