import FieldClock.Proofs.DeviceTime.Registers
import FieldClock.Proofs.Settings.Validity
import FieldClock.SimulatedClock

/-!
# The registers of a simulated device

What writing makes of the clock, and what reading finds of it. The seconds have two holding registers, the second one right
behind the first around the end of the addresses; milliseconds that have neither of these to themselves are never set.
-/

namespace FieldClock

namespace SimulatedClock

variable {layout : RegisterMap} {clock : DeviceTime} {value : UInt16}

/-! ### Writing -/

theorem putRegister_high : putRegister layout clock layout.writeEpochAddress value =
    { clock with seconds := joinWords value (splitWords clock.seconds).2 } := by
  simp [putRegister]

theorem putRegister_low : putRegister layout clock (layout.writeEpochAddress + 1) value =
    { clock with seconds := joinWords (splitWords clock.seconds).1 value } := by
  simp [putRegister]

theorem putRegister_milliseconds (on : layout.writeMsEnabled = true) (apart : layout.MillisecondsApart) :
    putRegister layout clock layout.writeMsAddress value = { clock with milliseconds := min value 999 } := by
  simp [putRegister, on, apart.1, apart.2]

/-- Writing the seconds sets them, wherever their registers are, and nothing else. -/
theorem putRegisters_epoch (layout : RegisterMap) (clock time : DeviceTime) :
    putRegisters layout clock layout.writeEpochAddress time.epochRegisters = { clock with seconds := time.seconds } := by
  rw [DeviceTime.epochRegisters, putRegisters, putRegisters, putRegisters, putRegister_high, putRegister_low]
  simp

/-- Writing the milliseconds sets them and nothing else just if they have a register to themselves. -/
theorem putRegisters_milliseconds_iff (on : layout.writeMsEnabled = true) :
    (∀ clock value, putRegisters layout clock layout.writeMsAddress [value] =
        { clock with milliseconds := min value 999 }) ↔ layout.MillisecondsApart := by
  constructor
  · intro sets
    have kept : (putRegister layout ⟨0, 0⟩ layout.writeMsAddress 1).seconds = 0 :=
      congrArg DeviceTime.seconds (sets ⟨0, 0⟩ 1)
    refine ⟨fun high => ?_, fun low => ?_⟩
    · rw [high, putRegister_high] at kept
      exact absurd kept (by decide)
    · rw [low, putRegister_low] at kept
      exact absurd kept (by decide)
  · intro apart clock value
    exact putRegister_milliseconds on apart

/-! ### Reading -/

variable {d : SimulatedClock} {n : Nat}

/-- The values that a read of so many registers finds. -/
def found (d : SimulatedClock) (address : UInt16) (n : Nat) : List UInt16 :=
  (List.range n).map fun i => d.inputRegister (address + UInt16.ofNat i)

theorem found_length (d : SimulatedClock) (address : UInt16) (n : Nat) : (d.found address n).length = n := by
  rw [found, List.length_map, List.length_range]

theorem inputRegister_offset {i : Nat} (inside : d.layout.readAddress.toNat + i < 65536) :
    d.inputRegister (d.layout.readAddress + UInt16.ofNat i) = d.clock.registers.getD i 0 := by
  have small : i < 65536 := by omega
  have sum : (d.layout.readAddress + UInt16.ofNat i).toNat = d.layout.readAddress.toNat + i := by
    rw [UInt16.toNat_add, UInt16.toNat_ofNat_of_lt' small]
    exact Nat.mod_eq_of_lt inside
  have behind : d.layout.readAddress ≤ d.layout.readAddress + UInt16.ofNat i := by
    rw [UInt16.le_iff_toNat_le, sum]
    exact Nat.le_add_right _ _
  rw [inputRegister, if_pos behind, sum, Nat.add_sub_cancel_left]

/-- Three registers of the clock, when they are not at the end of the addresses, are what a read begins with. -/
theorem registers_prefix_found (inside : d.layout.readAddress ≤ 65533) (enough : 3 ≤ n) :
    d.clock.registers <+: d.found d.layout.readAddress n := by
  have inside : d.layout.readAddress.toNat ≤ 65533 := UInt16.le_iff_toNat_le.mp inside
  have first : ∀ i < 3, d.inputRegister (d.layout.readAddress + UInt16.ofNat i) = d.clock.registers.getD i 0 :=
    fun i few => inputRegister_offset (by omega)
  obtain ⟨k, rfl⟩ := Nat.exists_eq_add_of_le enough
  refine ⟨((List.range k).map (3 + ·)).map fun i => d.inputRegister (d.layout.readAddress + UInt16.ofNat i), ?_⟩
  rw [found, List.range_add, List.map_append]
  have three : List.range 3 = [0, 1, 2] := rfl
  rw [three, List.map_cons, List.map_cons, List.map_cons, first 0 (by omega), first 1 (by omega), first 2 (by omega)]
  rfl

/-- What a read of the clock finds is the clock, if it finds enough of it. -/
theorem ofRegisters_found_eq_ok_iff {time : DeviceTime} (inside : d.layout.readAddress ≤ 65533)
    (valid : d.clock.milliseconds ≤ 999) :
    DeviceTime.ofRegisters (d.found d.layout.readAddress n) = .ok time ↔ 3 ≤ n ∧ time = d.clock := by
  constructor
  · intro ok
    have enough : 3 ≤ n := found_length d _ n ▸ DeviceTime.ofRegisters_isOk_length ok
    have shown := DeviceTime.ofRegisters_eq_ok_iff.mpr ⟨registers_prefix_found inside enough, valid⟩
    exact ⟨enough, Except.ok.inj (ok.symm.trans shown)⟩
  · rintro ⟨enough, rfl⟩
    exact DeviceTime.ofRegisters_eq_ok_iff.mpr ⟨registers_prefix_found inside enough, valid⟩

end SimulatedClock

end FieldClock
