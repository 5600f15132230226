import FieldClock.Proofs.DeviceTime.Registers

/-!
# The codec of device times

Which registers show a device time, and which one they show. Encoding and decoding undo each other, and of two times the
earlier one is the one whose registers come first, word by word.
-/

namespace FieldClock

/-! ### The order of words -/

theorem joinWords_lt_iff (hi lo hi' lo' : UInt16) :
    joinWords hi lo < joinWords hi' lo' ↔ hi < hi' ∨ hi = hi' ∧ lo < lo' := by
  have small := lo.toNat_lt
  have small' := lo'.toNat_lt
  rw [UInt32.lt_iff_toNat_lt, joinWords_toNat, joinWords_toNat, UInt16.lt_iff_toNat_lt, UInt16.lt_iff_toNat_lt,
    ← UInt16.toNat_inj]
  omega

namespace DeviceTime

variable {d e : DeviceTime} {rs : List UInt16}

/-- Times in range are ordered by their seconds first. -/
theorem totalMilliseconds_lt_iff (first : d.milliseconds ≤ 999) (second : e.milliseconds ≤ 999) :
    d.totalMilliseconds < e.totalMilliseconds ↔
      d.seconds < e.seconds ∨ d.seconds = e.seconds ∧ d.milliseconds < e.milliseconds := by
  rw [UInt16.le_iff_toNat_le] at first second
  have last : (999 : UInt16).toNat = 999 := rfl
  rw [UInt32.lt_iff_toNat_lt, UInt16.lt_iff_toNat_lt, ← UInt32.toNat_inj, totalMilliseconds, totalMilliseconds]
  omega

theorem registers_lt_iff :
    d.registers < e.registers ↔ d.seconds < e.seconds ∨ d.seconds = e.seconds ∧ d.milliseconds < e.milliseconds := by
  have seconds := joinWords_lt_iff (splitWords d.seconds).1 (splitWords d.seconds).2 (splitWords e.seconds).1
    (splitWords e.seconds).2
  have same : d.seconds = e.seconds ↔
      (splitWords d.seconds).1 = (splitWords e.seconds).1 ∧ (splitWords d.seconds).2 = (splitWords e.seconds).2 := by
    rw [← Prod.ext_iff]
    exact ⟨congrArg splitWords, fun words => by rw [← joinWords_splitWords d.seconds, words, joinWords_splitWords]⟩
  rw [joinWords_splitWords, joinWords_splitWords] at seconds
  rw [seconds, same, registers_eq, registers_eq]
  simp only [List.cons_lt_cons_iff, List.not_lt_nil, and_false, or_false, and_or_left, or_assoc, and_assoc]

/-! ### Decoding -/

/-- There are three registers, and the third one is in range. -/
def Legible (rs : List UInt16) : Prop := 3 ≤ rs.length ∧ ∀ ms ∈ rs[2]?, ms ≤ 999

theorem ofRegisters_cons (hi lo ms : UInt16) (rest : List UInt16) :
    ofRegisters (hi :: lo :: ms :: rest) =
      if ms ≤ 999 then .ok ⟨joinWords hi lo, ms⟩ else .error (.millisecondsOutOfRange ms) := by
  rw [ofRegisters]
  by_cases inRange : ms ≤ 999
  · rw [if_pos inRange, if_neg (UInt16.not_lt.mpr inRange)]
  · rw [if_neg inRange, if_pos (UInt16.not_le.mp inRange)]

theorem exists_ofRegisters_iff : (∃ d, ofRegisters rs = .ok d) ↔ Legible rs := by
  rcases rs with _ | ⟨hi, _ | ⟨lo, _ | ⟨ms, rest⟩⟩⟩
  · simp [ofRegisters, Legible]
  · simp [ofRegisters, Legible]
  · simp [ofRegisters, Legible]
  · rw [ofRegisters_cons]
    by_cases inRange : ms ≤ 999 <;> simp [Legible, inRange]

/-- The time that registers show is the one that is written as the first three of them. -/
theorem ofRegisters_eq_ok_iff_take : ofRegisters rs = .ok d ↔ Legible rs ∧ d.registers = rs.take 3 := by
  constructor
  · intro decoded
    obtain ⟨⟨rest, rfl⟩, -⟩ := ofRegisters_eq_ok_iff.mp decoded
    exact ⟨exists_ofRegisters_iff.mp ⟨d, decoded⟩, rfl⟩
  · rintro ⟨⟨-, inRange⟩, shown⟩
    obtain ⟨rest, rfl⟩ : d.registers <+: rs := shown ▸ List.take_prefix 3 rs
    exact ofRegisters_eq_ok_iff.mpr ⟨⟨rest, rfl⟩, inRange d.milliseconds rfl⟩

/-- Registers show a device time just if there are three and the third is in range, and then it is the time that is written as
    these three. A time with further registers behind it decodes to itself, or to a fault if its milliseconds are out of range.
    Words are joined and split without loss, and what comes first in registers comes first in time. -/
theorem ofRegisters_exact :
    (∀ rs, (∃ d, ofRegisters rs = .ok d) ↔ Legible rs) ∧
      (∀ rs d, ofRegisters rs = .ok d ↔ Legible rs ∧ d.registers = rs.take 3) ∧
      (∀ d rest, ofRegisters (d.registers ++ rest) =
        if d.milliseconds ≤ 999 then .ok d else .error (.millisecondsOutOfRange d.milliseconds)) ∧
      (∀ hi lo ms rest, ofRegisters (hi :: lo :: ms :: rest) =
        if ms ≤ 999 then .ok ⟨joinWords hi lo, ms⟩ else .error (.millisecondsOutOfRange ms)) ∧
      (∀ d : DeviceTime, d.registers = [(splitWords d.seconds).1, (splitWords d.seconds).2, d.milliseconds]) ∧
      (∀ hi lo, splitWords (joinWords hi lo) = (hi, lo)) ∧
      (∀ n, joinWords (splitWords n).1 (splitWords n).2 = n) ∧
      ∀ rs rs' d d', ofRegisters rs = .ok d → ofRegisters rs' = .ok d' →
        (d.totalMilliseconds < d'.totalMilliseconds ↔ rs.take 3 < rs'.take 3) := by
  refine ⟨fun rs => exists_ofRegisters_iff, fun rs d => ofRegisters_eq_ok_iff_take, ?_, ofRegisters_cons, registers_eq,
    splitWords_joinWords, joinWords_splitWords, ?_⟩
  · intro d rest
    rw [registers_eq, List.cons_append, List.cons_append, List.cons_append, ofRegisters_cons, joinWords_splitWords]
  · intro rs rs' d d' first second
    rw [← (ofRegisters_eq_ok_iff_take.mp first).2, ← (ofRegisters_eq_ok_iff_take.mp second).2, registers_lt_iff]
    exact totalMilliseconds_lt_iff (ofRegisters_eq_ok_iff.mp first).2 (ofRegisters_eq_ok_iff.mp second).2

theorem ofRegisters_exact_carry :
    ofRegisters [12055, 65535, 999] = .ok ⟨790102015, 999⟩ ∧ ofRegisters [12056, 0, 0, 7] = .ok ⟨790102016, 0⟩ ∧
      (⟨790102015, 999⟩ : DeviceTime).totalMilliseconds < (⟨790102016, 0⟩ : DeviceTime).totalMilliseconds := by
  obtain ⟨-, -, -, -, -, -, -, ordered⟩ := ofRegisters_exact
  have first : ofRegisters [12055, 65535, 999] = .ok ⟨790102015, 999⟩ := rfl
  have second : ofRegisters [12056, 0, 0, 7] = .ok ⟨790102016, 0⟩ := rfl
  exact ⟨first, second, (ordered _ _ _ _ first second).mpr (by decide)⟩

end DeviceTime

end FieldClock
