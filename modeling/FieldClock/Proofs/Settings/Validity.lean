import FieldClock.Settings

/-!
# Settings without a defect

What settings in which no defect is found say. Their overlap check keeps the milliseconds off the registers of the seconds
at all addresses but one: seconds that begin at the last address go on at the first, where the check does not look.
-/

namespace FieldClock

/-- Settings that are as they have to be. -/
structure Settings.Valid (s : Settings) : Prop where
  timeout : s.timeout.isZero = false
  readCount : 3 ≤ s.registers.readCount ∧ s.registers.readCount ≤ 125
  epochCount : s.registers.writeEpochCount = 2
  milliseconds : s.registers.millisecondsOverlap = false
  hosts : ∀ target ∈ s.devices, target.host ≠ ""

theorem Settings.defect?_eq_none_iff {s : Settings} : s.defect? = none ↔ s.Valid := by
  constructor
  · intro none
    unfold Settings.defect? at none
    split at none
    · cases none
    rename_i timeout
    split at none
    · cases none
    rename_i few
    split at none
    · cases none
    rename_i many
    split at none
    · cases none
    rename_i count
    split at none
    · cases none
    rename_i overlap
    rw [Option.map_eq_none_iff, List.find?_eq_none] at none
    refine ⟨Bool.eq_false_iff.mpr timeout, ⟨UInt16.not_lt.mp few, UInt16.not_lt.mp many⟩, Decidable.not_not.mp count,
      Bool.eq_false_iff.mpr overlap, ?_⟩
    intro target listed empty
    exact none target listed (decide_eq_true empty)
  · intro valid
    have named : s.devices.find? (·.host = "") = none :=
      List.find?_eq_none.mpr fun target listed => by simpa using valid.hosts target listed
    rw [Settings.defect?, valid.timeout, if_neg Bool.false_ne_true, if_neg (UInt16.not_lt.mpr valid.readCount.1),
      if_neg (UInt16.not_lt.mpr valid.readCount.2), if_neg (Decidable.not_not.mpr valid.epochCount), valid.milliseconds,
      if_neg Bool.false_ne_true, named]
    rfl

theorem Settings.Valid.readCount_toNat {s : Settings} (valid : s.Valid) :
    3 ≤ s.registers.readCount.toNat ∧ s.registers.readCount.toNat ≤ 125 :=
  ⟨UInt16.le_iff_toNat_le.mp valid.readCount.1, UInt16.le_iff_toNat_le.mp valid.readCount.2⟩

namespace RegisterMap

/-- The milliseconds are written to a register that the seconds do not take. -/
def MillisecondsApart (m : RegisterMap) : Prop :=
  m.writeMsAddress ≠ m.writeEpochAddress ∧ m.writeMsAddress ≠ m.writeEpochAddress + 1

variable {m : RegisterMap}

/-- The check sees every overlap with the seconds, but not the one around the end of the addresses. -/
theorem millisecondsOverlap_eq_false_iff (on : m.writeMsEnabled = true) :
    m.millisecondsOverlap = false ↔ m.MillisecondsApart ∨ m.writeEpochAddress = 65535 ∧ m.writeMsAddress = 0 := by
  have epoch := m.writeEpochAddress.toNat_lt
  have milliseconds := m.writeMsAddress.toNat_lt
  have last : (65535 : UInt16).toNat = 65535 := rfl
  have first : (0 : UInt16).toNat = 0 := rfl
  have next : (m.writeEpochAddress + 1).toNat = (m.writeEpochAddress.toNat + 1) % 65536 := UInt16.toNat_add _ 1
  simp only [millisecondsOverlap, on, Bool.true_and, Bool.and_eq_false_iff, decide_eq_false_iff_not, MillisecondsApart,
    ne_eq, ← UInt16.toNat_inj, next, last, first]
  omega

/-- Of the layouts that pass the check just one kind has the milliseconds in a register of the seconds. -/
theorem millisecondsApart_iff (on : m.writeMsEnabled = true) (passes : m.millisecondsOverlap = false) :
    m.MillisecondsApart ↔ ¬ (m.writeEpochAddress = 65535 ∧ m.writeMsAddress = 0) := by
  constructor
  · rintro ⟨-, behind⟩ ⟨last, first⟩
    rw [last, first] at behind
    exact behind rfl
  · intro unwrapped
    exact ((millisecondsOverlap_eq_false_iff on).mp passes).resolve_right unwrapped

end RegisterMap

end FieldClock
