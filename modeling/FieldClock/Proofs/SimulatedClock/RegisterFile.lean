import FieldClock.Proofs.Modbus.Frame
import FieldClock.Proofs.Requests
import FieldClock.Proofs.SimulatedClock.Exchange

/-!
# The simulated device is a register file

Over a whole run, with calls and switches in any order, the clock of a device is what the accepted writes have put in its
registers: of each register the last value counts, and nothing but a write that is accepted sets any. A read shows the clock
where the layout has it, and never around the end of the addresses.
-/

namespace FieldClock.SimulatedClock

/-! ### Runs -/

/-- What can be done with a simulated device: a call to it, or a switch for one of its faults. -/
inductive Operation where
  | call (c : Call)
  | setOffline (on : Bool)
  | setShortReads (on : Bool)
  | failReadsFrom (index : Nat)
  | failWritesTo (address : UInt16)

/-- Does an operation. Only a read answers with registers. -/
def perform (d : SimulatedClock) : Operation → Except Fault (List UInt16) × SimulatedClock
  | .call c => (c.make transport : StateM SimulatedClock _).run d
  | .setOffline on => (.ok [], { d with offline := on })
  | .setShortReads on => (.ok [], { d with shortReads := on })
  | .failReadsFrom index => (.ok [], { d with failReadsFrom := some index })
  | .failWritesTo address => (.ok [], { d with failWritesTo := some address })

/-- The device after a run of operations. -/
def after : SimulatedClock → List Operation → SimulatedClock
  | d, [] => d
  | d, operation :: rest => (d.perform operation).2.after rest

/-- What a write covers: its values with their addresses, around the end of the addresses. -/
def covered (address : UInt16) (values : List UInt16) : List (UInt16 × UInt16) :=
  values.mapIdx fun i value => (address + UInt16.ofNat i, value)

/-- What an operation puts in registers. Only a write that is accepted puts anything there. -/
def acceptedBy (d : SimulatedClock) : Operation → List (UInt16 × UInt16)
  | .call (.write address values) => if (d.write address values).1.isOk then covered address values else []
  | _ => []

/-- What the accepted writes of a run put in registers, the first one first. -/
def accepted : SimulatedClock → List Operation → List (UInt16 × UInt16)
  | _, [] => []
  | d, operation :: rest => d.acceptedBy operation ++ (d.perform operation).2.accepted rest

/-! ### Register files -/

/-- The last value that was put in the register at an address. -/
def latest? (puts : List (UInt16 × UInt16)) (address : UInt16) : Option UInt16 := puts.reverse.lookup address

/-- A clock with its two words and its milliseconds replaced by what was put last in their registers. -/
def registerFile (layout : RegisterMap) (clock : DeviceTime) (puts : List (UInt16 × UInt16)) : DeviceTime where
  seconds :=
    joinWords ((latest? puts layout.writeEpochAddress).getD (splitWords clock.seconds).1)
      ((latest? puts (layout.writeEpochAddress + 1)).getD (splitWords clock.seconds).2)
  milliseconds :=
    if layout.writeMsEnabled then min ((latest? puts layout.writeMsAddress).getD clock.milliseconds) 999
    else clock.milliseconds

/-- What the input register at an address shows of a clock. The words of the seconds and the milliseconds stand behind each
    other, but not around the end of the addresses. -/
def shownAt (layout : RegisterMap) (clock : DeviceTime) (address : UInt16) : UInt16 :=
  if address.toNat = layout.readAddress.toNat then (splitWords clock.seconds).1
  else if address.toNat = layout.readAddress.toNat + 1 then (splitWords clock.seconds).2
  else if address.toNat = layout.readAddress.toNat + 2 then clock.milliseconds
  else 0

section
variable {layout : RegisterMap} {clock : DeviceTime} {d : SimulatedClock} {address value : UInt16} {values : List UInt16}
  {puts : List (UInt16 × UInt16)} {operations : List Operation}

@[simp] theorem latest?_nil (address : UInt16) : latest? [] address = none := rfl

@[simp] theorem latest?_concat (puts : List (UInt16 × UInt16)) (own value address : UInt16) :
    latest? (puts ++ [(own, value)]) address = if address = own then some value else latest? puts address := by
  by_cases here : address = own
  · simp [latest?, here]
  · have other : (address == own) = false := beq_false_of_ne here
    simp [latest?, List.lookup_cons, here, other]

theorem registerFile_nil (inRange : clock.milliseconds ≤ 999) : registerFile layout clock [] = clock := by
  have kept : min clock.milliseconds 999 = clock.milliseconds := if_pos inRange
  simp [registerFile, kept]

/-- One more value in a register is one more in the register file. -/
theorem putRegister_registerFile (apart : layout.writeMsEnabled = true → layout.MillisecondsApart) :
    putRegister layout (registerFile layout clock puts) address value =
      registerFile layout clock (puts ++ [(address, value)]) := by
  by_cases high : address = layout.writeEpochAddress
  · subst high
    rw [putRegister_high]
    cases on : layout.writeMsEnabled with
    | false => simp [registerFile, on]
    | true => simp [registerFile, on, (apart on).1]
  by_cases low : address = layout.writeEpochAddress + 1
  · subst low
    rw [putRegister_low]
    cases on : layout.writeMsEnabled with
    | false => simp [registerFile, on]
    | true => simp [registerFile, on, (apart on).2]
  by_cases own : layout.writeMsEnabled = true ∧ address = layout.writeMsAddress
  · obtain ⟨on, rfl⟩ := own
    rw [putRegister_milliseconds on (apart on)]
    simp [registerFile, on, Ne.symm high, Ne.symm low]
  · have kept : putRegister layout (registerFile layout clock puts) address value = registerFile layout clock puts := by
      simp [putRegister, high, low, own]
    rw [kept]
    cases on : layout.writeMsEnabled with
    | false => simp [registerFile, on, Ne.symm high, Ne.symm low]
    | true =>
      have other : ¬ layout.writeMsAddress = address := fun same => own ⟨on, same.symm⟩
      simp [registerFile, on, Ne.symm high, Ne.symm low, other]

theorem covered_cons (address value : UInt16) (values : List UInt16) :
    covered address (value :: values) = (address, value) :: covered (address + 1) values := by
  simp [covered, List.mapIdx_cons, Modbus.add_ofNat_succ]

/-- A write leaves what it covers in the register file. -/
theorem putRegisters_registerFile (apart : layout.writeMsEnabled = true → layout.MillisecondsApart) :
    putRegisters layout (registerFile layout clock puts) address values =
      registerFile layout clock (puts ++ covered address values) := by
  induction values generalizing address puts with
  | nil => simp [putRegisters, covered]
  | cons value values ih =>
    rw [putRegisters, putRegister_registerFile apart, ih, covered_cons, List.append_assoc, List.singleton_append]

/-! ### Operations -/

theorem perform_write (d : SimulatedClock) (address : UInt16) (values : List UInt16) :
    d.perform (.call (.write address values)) = ((d.write address values).1.map fun _ => [], (d.write address values).2) :=
  rfl

/-- A write is accepted on an open connection, unless writes fail that start where it does. -/
theorem write_cases (d : SimulatedClock) (address : UInt16) (values : List UInt16) :
    (d.connected = true ∧ d.failWritesTo ≠ some address) ∧
        d.write address values = (.ok (), { d with
          writes := d.writes ++ [⟨address, values⟩]
          clock := putRegisters d.layout d.clock address values }) ∨
      ¬ (d.connected = true ∧ d.failWritesTo ≠ some address) ∧
        ∃ cause record, d.write address values = (.error cause, { d with writes := record }) := by
  by_cases connected : d.connected = true
  · rw [write_connected connected]
    split
    · rename_i fails
      exact .inr ⟨fun works => works.2 fails, _, _, rfl⟩
    · rename_i works
      exact .inl ⟨⟨connected, works⟩, rfl⟩
  · rw [write, if_neg connected]
    exact .inr ⟨fun works => connected works.1, _, d.writes, rfl⟩

/-- Nothing but a write sets the clock. -/
theorem perform_kept {operation : Operation} (other : ∀ address values, operation ≠ .call (.write address values))
    (d : SimulatedClock) :
    d.acceptedBy operation = [] ∧ (d.perform operation).2.layout = d.layout ∧ (d.perform operation).2.clock = d.clock := by
  cases operation with
  | call c =>
    cases c with
    | connect =>
      have kept : d.connect.2.layout = d.layout ∧ d.connect.2.clock = d.clock := by
        unfold connect
        split <;> exact ⟨rfl, rfl⟩
      exact ⟨rfl, kept⟩
    | read address quantity =>
      have kept : (d.read address quantity).2.layout = d.layout ∧ (d.read address quantity).2.clock = d.clock := by
        unfold read
        split
        · split <;> exact ⟨rfl, rfl⟩
        · exact ⟨rfl, rfl⟩
      exact ⟨rfl, kept⟩
    | write address values => exact absurd rfl (other address values)
    | close => exact ⟨rfl, rfl, rfl⟩
  | _ => exact ⟨rfl, rfl, rfl⟩

/-- An operation keeps the layout, and puts in the register file what it accepts. -/
theorem perform_registerFile (apart : d.layout.writeMsEnabled = true → d.layout.MillisecondsApart)
    (filed : d.clock = registerFile d.layout clock puts) (operation : Operation) :
    (d.perform operation).2.layout = d.layout ∧
      (d.perform operation).2.clock = registerFile d.layout clock (puts ++ d.acceptedBy operation) := by
  by_cases write : ∃ address values, operation = .call (.write address values)
  · obtain ⟨address, values, rfl⟩ := write
    rw [perform_write, acceptedBy]
    obtain ⟨-, accepts⟩ | ⟨-, cause, record, refuses⟩ := write_cases d address values
    · rw [accepts]
      refine ⟨rfl, ?_⟩
      show putRegisters d.layout d.clock address values = _
      rw [filed, putRegisters_registerFile apart]
      rfl
    · rw [refuses]
      refine ⟨rfl, ?_⟩
      show d.clock = registerFile d.layout clock (puts ++ [])
      rw [List.append_nil, filed]
  · obtain ⟨nothing, layout, kept⟩ := perform_kept (fun address values same => write ⟨address, values, same⟩) d
    exact ⟨layout, by rw [nothing, List.append_nil, kept, filed]⟩

/-- After a run the clock is what its accepted writes made of it. -/
theorem after_registerFile (apart : d.layout.writeMsEnabled = true → d.layout.MillisecondsApart)
    (filed : d.clock = registerFile d.layout clock puts) (operations : List Operation) :
    (d.after operations).layout = d.layout ∧
      (d.after operations).clock = registerFile d.layout clock (puts ++ d.accepted operations) := by
  induction operations generalizing d puts with
  | nil => exact ⟨rfl, by rw [after, accepted, List.append_nil, filed]⟩
  | cons operation rest ih =>
    obtain ⟨layout, next⟩ := perform_registerFile apart filed operation
    rw [← layout] at apart next
    obtain ⟨kept, last⟩ := ih apart next
    rw [after, accepted, kept, last, layout, List.append_assoc]
    exact ⟨rfl, rfl⟩

theorem accepted_append (d : SimulatedClock) (first rest : List Operation) :
    d.accepted (first ++ rest) = d.accepted first ++ (d.after first).accepted rest := by
  induction first generalizing d with
  | nil => rfl
  | cons operation first ih => rw [List.cons_append, accepted, accepted, after, ih, List.append_assoc]

/-! ### Reading -/

theorem inputRegister_eq_shownAt (d : SimulatedClock) (address : UInt16) :
    d.inputRegister address = shownAt d.layout d.clock address := by
  rw [inputRegister, shownAt, DeviceTime.registers_eq]
  by_cases behind : d.layout.readAddress ≤ address
  · rw [if_pos behind]
    obtain ⟨k, sum⟩ := Nat.exists_eq_add_of_le (UInt16.le_iff_toNat_le.mp behind)
    rw [sum, Nat.add_sub_cancel_left]
    rcases k with _ | _ | _ | k <;> simp
  · rw [if_neg behind]
    rw [UInt16.not_le, UInt16.lt_iff_toNat_lt] at behind
    rw [if_neg (by omega), if_neg (by omega), if_neg (by omega)]

/-- A read is answered on an open connection until reads fail, with what the registers show. -/
theorem read_cases (d : SimulatedClock) (address quantity : UInt16) :
    (d.connected = true ∧ d.readFails d.reads = false) ∧
        (d.read address quantity).1 =
          .ok ((List.range (d.granted quantity)).map fun i => shownAt d.layout d.clock (address + UInt16.ofNat i)) ∨
      ¬ (d.connected = true ∧ d.readFails d.reads = false) ∧ ∃ cause, (d.read address quantity).1 = .error cause := by
  by_cases connected : d.connected = true
  · rw [read_connected connected]
    split
    · rename_i fails
      exact .inr ⟨fun works => absurd (fails.symm.trans works.2) (by decide), _, rfl⟩
    · rename_i works
      refine .inl ⟨⟨connected, Bool.eq_false_iff.mpr works⟩, ?_⟩
      simp only [found, inputRegister_eq_shownAt]
  · rw [read, if_neg connected]
    exact .inr ⟨fun works => connected works.1, _, rfl⟩

end

/-- In every run a device whose milliseconds have a register to themselves is a register file: its clock is the first one with
    the words and the milliseconds that accepted writes put in their registers last. A write is accepted just if there is a
    connection and writes do not fail where it starts; what is not accepted leaves the clock alone, as reading does. A read that
    succeeds finds in each register what the clock shows there, with the last register left out in short reads. -/
theorem after_isRegisterFile (d : SimulatedClock) (apart : d.layout.writeMsEnabled = true → d.layout.MillisecondsApart)
    (inRange : d.clock.milliseconds ≤ 999) (operations : List Operation) :
    let now := d.after operations
    now.clock = registerFile d.layout d.clock (d.accepted operations) ∧
      (∀ address values,
        let done := now.perform (.call (.write address values))
        (done.1.isOk = true ↔ now.connected = true ∧ now.failWritesTo ≠ some address) ∧
          d.accepted (operations ++ [.call (.write address values)]) =
            d.accepted operations ++ (if done.1.isOk then covered address values else []) ∧
          (done.1.isOk = false → done.2.clock = now.clock)) ∧
      ∀ address quantity,
        let done := now.perform (.call (.read address quantity))
        (done.1.isOk = true ↔ now.connected = true ∧ now.readFails now.reads = false) ∧
          (∀ values, done.1 = .ok values →
            values = (List.range (now.granted quantity)).map fun i => shownAt d.layout now.clock (address + UInt16.ofNat i)) ∧
          done.2.clock = now.clock := by
  intro now
  have filed : d.clock = registerFile d.layout d.clock [] := (registerFile_nil inRange).symm
  obtain ⟨layout, clock⟩ := after_registerFile apart filed operations
  refine ⟨clock, ?_, ?_⟩
  · intro address values done
    rw [accepted_append, show done = _ from perform_write now address values]
    obtain ⟨works, accepts⟩ | ⟨fails, cause, record, refuses⟩ := write_cases now address values
    · have put : now.accepted [.call (.write address values)] = covered address values := by
        simp [accepted, acceptedBy, accepts, Except.isOk, Except.toBool]
      rw [accepts, put]
      exact ⟨iff_of_true rfl works, rfl, fun refused => nomatch refused⟩
    · have put : now.accepted [.call (.write address values)] = [] := by
        simp [accepted, acceptedBy, refuses, Except.isOk, Except.toBool]
      rw [refuses, put]
      exact ⟨iff_of_false Bool.false_ne_true fails, rfl, fun _ => rfl⟩
  · intro address quantity done
    have kept : done.2.clock = now.clock := (perform_kept (fun _ _ same => by cases same) now).2.2
    have answered : done.1 = (now.read address quantity).1 := rfl
    rw [answered, ← layout]
    obtain ⟨works, shown⟩ | ⟨fails, cause, refuses⟩ := read_cases now address quantity
    · rw [shown]
      exact ⟨iff_of_true rfl works, fun values found => (Except.ok.inj found).symm, kept⟩
    · rw [refuses]
      exact ⟨iff_of_false Bool.false_ne_true fails, fun values found => (nomatch found), kept⟩

/-- A device whose seconds go on around the end of the addresses. -/
def wrapping : SimulatedClock where
  layout := { readAddress := 65534, writeEpochAddress := 65535, writeMsEnabled := true, writeMsAddress := 1 }
  clock := ⟨0, 7⟩

/-- A write over all three registers, and one that is refused. -/
def wrappingRun : List Operation :=
  [.call .connect, .call (.write 65535 [1, 2, 2000]), .failWritesTo 65535, .call (.write 65535 [3, 4]), .setShortReads true]

theorem after_isRegisterFile_wrapping :
    (wrapping.after wrappingRun).clock = ⟨65538, 999⟩ ∧
      (wrapping.after wrappingRun).read 65534 4 = (.ok [1, 2, 0], { wrapping.after wrappingRun with reads := 1 }) := by
  have apart : wrapping.layout.writeMsEnabled = true → wrapping.layout.MillisecondsApart := fun _ => by
    unfold RegisterMap.MillisecondsApart
    decide
  obtain ⟨clock, -, -⟩ := after_isRegisterFile wrapping apart (by decide) wrappingRun
  exact ⟨clock.trans (by decide), by rfl⟩

end FieldClock.SimulatedClock
