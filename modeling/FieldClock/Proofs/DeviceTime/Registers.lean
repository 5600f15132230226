import FieldClock.DeviceTime

/-!
# Device time in registers

Joining and splitting words undo each other, and three registers decode to the device time that is written as them.
-/

namespace FieldClock

/-! ### Words -/

theorem joinWords_toNat (hi lo : UInt16) : (joinWords hi lo).toNat = hi.toNat * 65536 + lo.toNat := by
  have hhi := hi.toNat_lt
  have hshift : (hi.toUInt32 <<< 16).toNat = hi.toNat <<< 16 := by
    simp only [UInt32.toNat_shiftLeft, UInt16.toNat_toUInt32]
    refine Nat.mod_eq_of_lt ?_
    rw [show (16 : UInt32).toNat % 32 = 16 from rfl, Nat.shiftLeft_eq]
    omega
  rw [joinWords, UInt32.toNat_or, hshift, UInt16.toNat_toUInt32, ← Nat.shiftLeft_add_eq_or_of_lt lo.toNat_lt,
    Nat.shiftLeft_eq]

theorem splitWords_hi_toNat (n : UInt32) : (splitWords n).1.toNat = n.toNat / 65536 := by
  have hn := n.toNat_lt
  rw [splitWords, UInt32.toNat_toUInt16, UInt32.toNat_shiftRight, show (16 : UInt32).toNat % 32 = 16 from rfl,
    Nat.shiftRight_eq_div_pow]
  omega

theorem splitWords_lo_toNat (n : UInt32) : (splitWords n).2.toNat = n.toNat % 65536 :=
  UInt32.toNat_toUInt16 n

@[simp] theorem joinWords_splitWords (n : UInt32) : joinWords (splitWords n).1 (splitWords n).2 = n := by
  apply UInt32.toNat_inj.mp
  rw [joinWords_toNat, splitWords_hi_toNat, splitWords_lo_toNat]
  omega

@[simp] theorem splitWords_joinWords (hi lo : UInt16) : splitWords (joinWords hi lo) = (hi, lo) := by
  have hlo := lo.toNat_lt
  refine Prod.ext ?_ ?_ <;> apply UInt16.toNat_inj.mp
  · rw [splitWords_hi_toNat, joinWords_toNat]
    show (hi.toNat * 65536 + lo.toNat) / 65536 = hi.toNat
    omega
  · rw [splitWords_lo_toNat, joinWords_toNat]
    show (hi.toNat * 65536 + lo.toNat) % 65536 = lo.toNat
    omega

/-! ### Registers -/

namespace DeviceTime

theorem registers_eq (d : DeviceTime) : d.registers = [(splitWords d.seconds).1, (splitWords d.seconds).2, d.milliseconds] :=
  rfl

/-- Registers show a device time just if they begin with its own three and its milliseconds are in range. -/
theorem ofRegisters_eq_ok_iff {rs : List UInt16} {d : DeviceTime} :
    ofRegisters rs = .ok d ↔ d.registers <+: rs ∧ d.milliseconds ≤ 999 := by
  constructor
  · intro ok
    unfold ofRegisters at ok
    split at ok
    · rename_i hi lo ms rest
      split at ok
      · cases ok
      · rename_i hms
        obtain rfl := Except.ok.inj ok
        refine ⟨⟨rest, ?_⟩, UInt16.not_lt.mp hms⟩
        rw [registers_eq, splitWords_joinWords]
        rfl
    · cases ok
  · rintro ⟨⟨rest, rfl⟩, hms⟩
    rw [registers_eq]
    show (if d.milliseconds > 999 then _ else _) = _
    rw [if_neg (UInt16.not_lt.mpr hms), joinWords_splitWords]

theorem ofRegisters_isOk_length {rs : List UInt16} {d : DeviceTime} (ok : ofRegisters rs = .ok d) : 3 ≤ rs.length :=
  (ofRegisters_eq_ok_iff.mp ok).1.length_le

/-- The time of an instant can be shown in registers. -/
theorem ofInstant_milliseconds_le (t : Instant) : (ofInstant t).milliseconds ≤ 999 := by
  have small : min t.subsecondMilliseconds 999 < 65536 := by omega
  rw [UInt16.le_iff_toNat_le, ofInstant, UInt16.toNat_ofNat_of_lt' small]
  exact Nat.min_le_right _ _

end DeviceTime

end FieldClock
