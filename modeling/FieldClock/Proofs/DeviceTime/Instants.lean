import FieldClock.Proofs.DeviceTime.Registers
import Mathlib.Data.Prod.Lex
import Mathlib.Order.Bounds.Defs

/-!
# Device times among the instants

A device shows an instant as the latest of its own times that is not after it. Where its clock covers the instant, a device
time is at most that of the instant just if its own instant is at most this one; all else about rounding follows from this.
Of instants before and after only the milliseconds are kept.
-/

namespace FieldClock

/-! ### The order of instants -/

namespace Instant

/-- What instants are ordered by: the seconds, then the nanoseconds. A leap second comes behind its second 59. -/
def key (t : Instant) : Int ×ₗ Nat := toLex (t.seconds, t.nanoseconds)

theorem key_injective : Function.Injective key := by
  intro t u same
  cases t
  cases u
  simpa [key] using same

instance : LinearOrder Instant := LinearOrder.lift' key key_injective

theorem le_iff {t u : Instant} :
    t ≤ u ↔ t.seconds < u.seconds ∨ t.seconds = u.seconds ∧ t.nanoseconds ≤ u.nanoseconds :=
  Prod.Lex.toLex_le_toLex

/-- The clock of a device covers an instant: it can count its seconds. -/
structure Covered (t : Instant) : Prop where
  started : deviceEpoch ≤ t.seconds
  counted : t.seconds ≤ deviceEpoch + 4294967295

end Instant

namespace DeviceTime

variable {d : DeviceTime} {t u : Instant}

/-! ### The two conversions in numbers -/

theorem toInstant_seconds (d : DeviceTime) : d.toInstant.seconds = deviceEpoch + d.seconds.toNat := rfl

theorem toInstant_nanoseconds (d : DeviceTime) : d.toInstant.nanoseconds = min d.milliseconds.toNat 999 * 1000000 := rfl

theorem toInstant_subsecondMilliseconds (d : DeviceTime) : d.toInstant.subsecondMilliseconds = min d.milliseconds.toNat 999 :=
  Nat.mul_div_cancel _ (by decide)

theorem covered_toInstant (d : DeviceTime) : d.toInstant.Covered := by
  have := d.seconds.toNat_lt
  constructor <;> rw [toInstant_seconds] <;> omega

theorem ofInstant_seconds_toNat (t : Instant) :
    (ofInstant t).seconds.toNat = min (t.seconds - deviceEpoch).toNat 4294967295 := by
  have small : min (t.seconds - deviceEpoch).toNat 4294967295 < 4294967296 := by omega
  rw [ofInstant, UInt32.toNat_ofNat_of_lt' small]

theorem ofInstant_milliseconds_toNat (t : Instant) :
    (ofInstant t).milliseconds.toNat = min t.subsecondMilliseconds 999 := by
  have small : min t.subsecondMilliseconds 999 < 65536 := by omega
  rw [ofInstant, UInt16.toNat_ofNat_of_lt' small]

/-! ### Rounding down -/

/-- A device time is at most that of an instant just if its instant is at most this one. -/
theorem le_ofInstant_iff (covered : t.Covered) (shown : d.milliseconds ≤ 999) :
    d.totalMilliseconds ≤ (ofInstant t).totalMilliseconds ↔ d.toInstant ≤ t := by
  have seconds := ofInstant_seconds_toNat t
  have milliseconds := ofInstant_milliseconds_toNat t
  have small : d.milliseconds.toNat ≤ 999 := UInt16.le_iff_toNat_le.mp shown
  obtain ⟨started, counted⟩ := covered
  rw [Instant.le_iff, toInstant_seconds, toInstant_nanoseconds, totalMilliseconds, totalMilliseconds, seconds, milliseconds,
    Instant.subsecondMilliseconds]
  omega

theorem ofInstant_toInstant_seconds (d : DeviceTime) : (ofInstant d.toInstant).seconds = d.seconds := by
  have := d.seconds.toNat_lt
  rw [← UInt32.toNat_inj, ofInstant_seconds_toNat, toInstant_seconds]
  omega

theorem ofInstant_toInstant_milliseconds_toNat (d : DeviceTime) :
    (ofInstant d.toInstant).milliseconds.toNat = min d.milliseconds.toNat 999 := by
  rw [ofInstant_milliseconds_toNat, toInstant_subsecondMilliseconds, Nat.min_assoc, Nat.min_self]

/-- A device time that registers can show is shown as itself. -/
theorem ofInstant_toInstant (shown : d.milliseconds ≤ 999) : ofInstant d.toInstant = d := by
  have milliseconds : (ofInstant d.toInstant).milliseconds = d.milliseconds := by
    rw [← UInt16.toNat_inj, ofInstant_toInstant_milliseconds_toNat]
    exact Nat.min_eq_left (UInt16.le_iff_toNat_le.mp shown)
  calc ofInstant d.toInstant = ⟨(ofInstant d.toInstant).seconds, (ofInstant d.toInstant).milliseconds⟩ := rfl
    _ = d := by rw [ofInstant_toInstant_seconds, milliseconds]

/-- Milliseconds that registers cannot show make no instant of their own. -/
theorem toInstant_ofInstant_toInstant (d : DeviceTime) : (ofInstant d.toInstant).toInstant = d.toInstant := by
  refine Instant.key_injective (Prod.ext ?_ ?_)
  · show (ofInstant d.toInstant).toInstant.seconds = d.toInstant.seconds
    rw [toInstant_seconds, ofInstant_toInstant_seconds, toInstant_seconds]
  · show (ofInstant d.toInstant).toInstant.nanoseconds = d.toInstant.nanoseconds
    rw [toInstant_nanoseconds, ofInstant_toInstant_milliseconds_toNat, toInstant_nanoseconds, Nat.min_assoc, Nat.min_self]

theorem toInstant_ofInstant_le (covered : t.Covered) : (ofInstant t).toInstant ≤ t :=
  (le_ofInstant_iff covered (ofInstant_milliseconds_le t)).mp le_rfl

theorem ofInstant_mono (covered : t.Covered) (covered' : u.Covered) (ordered : t ≤ u) :
    (ofInstant t).totalMilliseconds ≤ (ofInstant u).totalMilliseconds :=
  (le_ofInstant_iff covered' (ofInstant_milliseconds_le t)).mpr ((toInstant_ofInstant_le covered).trans ordered)

/-- Device times that registers can show are ordered as their instants. -/
theorem toInstant_le_iff {e : DeviceTime} (shown : d.milliseconds ≤ 999) (shown' : e.milliseconds ≤ 999) :
    d.toInstant ≤ e.toInstant ↔ d.totalMilliseconds ≤ e.totalMilliseconds := by
  rw [← le_ofInstant_iff (covered_toInstant e) shown, ofInstant_toInstant shown']

/-- An instant is shown as the latest of a device that is not after it. -/
theorem isGreatest_toInstant_ofInstant (covered : t.Covered) :
    IsGreatest {u | u ∈ Set.range toInstant ∧ u ≤ t} (ofInstant t).toInstant := by
  refine ⟨⟨Set.mem_range_self _, toInstant_ofInstant_le covered⟩, ?_⟩
  rintro - ⟨⟨d, rfl⟩, before⟩
  have shown := ofInstant_milliseconds_le d.toInstant
  rw [← toInstant_ofInstant_toInstant d] at before ⊢
  exact (toInstant_le_iff shown (ofInstant_milliseconds_le t)).mpr ((le_ofInstant_iff covered shown).mpr before)

/-! ### Instants that are not covered -/

theorem ofInstant_seconds_of_lt (early : t.seconds < deviceEpoch) : (ofInstant t).seconds = 0 := by
  rw [← UInt32.toNat_inj, ofInstant_seconds_toNat]
  show min _ _ = 0
  omega

theorem ofInstant_seconds_of_gt (late : deviceEpoch + 4294967295 < t.seconds) : (ofInstant t).seconds = 4294967295 := by
  rw [← UInt32.toNat_inj, ofInstant_seconds_toNat]
  show min _ _ = 4294967295
  omega

/-- On the instants that a device covers, `ofInstant` is adjoint to `toInstant`: it rounds down and keeps the order. Other
    instants have the first or the last second of a device and their own milliseconds, as far as these can be shown. -/
theorem ofInstant_adjoint_toInstant :
    (∀ t : Instant, t.Covered →
      (∀ d : DeviceTime, d.milliseconds ≤ 999 →
        (d.totalMilliseconds ≤ (ofInstant t).totalMilliseconds ↔ d.toInstant ≤ t)) ∧
      (∀ u : Instant, u.Covered → t ≤ u → (ofInstant t).totalMilliseconds ≤ (ofInstant u).totalMilliseconds) ∧
      IsGreatest {u | u ∈ Set.range toInstant ∧ u ≤ t} (ofInstant t).toInstant) ∧
    (∀ d : DeviceTime, d.milliseconds ≤ 999 → ofInstant d.toInstant = d) ∧
    ∀ t : Instant,
      (t.seconds < deviceEpoch → (ofInstant t).seconds = 0) ∧
      (deviceEpoch + 4294967295 < t.seconds → (ofInstant t).seconds = 4294967295) ∧
      (ofInstant t).milliseconds.toNat = min t.subsecondMilliseconds 999 ∧ (ofInstant t).milliseconds ≤ 999 := by
  refine ⟨fun t covered => ⟨?_, ?_, ?_⟩, fun d => ofInstant_toInstant, fun t => ⟨?_, ?_, ?_, ?_⟩⟩
  · exact fun d => le_ofInstant_iff covered
  · exact fun u => ofInstant_mono covered
  · exact isGreatest_toInstant_ofInstant covered
  · exact ofInstant_seconds_of_lt
  · exact ofInstant_seconds_of_gt
  · exact ofInstant_milliseconds_toNat t
  · exact ofInstant_milliseconds_le t

/-- Half a second into a leap second. -/
def leap : Instant := ⟨946684859, 1500000000, by decide, by decide⟩

/-- Half a second into a leap second before the first second of a device. -/
def eve : Instant := ⟨946684799, 1500000000, by decide, by decide⟩

/-- The last instant that there is, cut to its second. -/
def doomsday : Instant := ⟨lastSecond, 0, by decide, by decide⟩

theorem ofInstant_adjoint_toInstant_leap :
    leap.Covered ∧ (⟨59, 999⟩ : DeviceTime).milliseconds ≤ 999 ∧
      ((⟨59, 999⟩ : DeviceTime).totalMilliseconds ≤ (ofInstant leap).totalMilliseconds ↔
        (⟨59, 999⟩ : DeviceTime).toInstant ≤ leap) ∧
      leap ≤ toInstant ⟨60, 0⟩ ∧
      (ofInstant leap).totalMilliseconds ≤ (ofInstant (toInstant ⟨60, 0⟩)).totalMilliseconds ∧
      IsGreatest {u | u ∈ Set.range toInstant ∧ u ≤ leap} (ofInstant leap).toInstant ∧
      ofInstant (toInstant ⟨60, 0⟩) = ⟨60, 0⟩ ∧
      eve.seconds < deviceEpoch ∧ (ofInstant eve).seconds = 0 ∧ (ofInstant eve).milliseconds.toNat = 999 ∧
      deviceEpoch + 4294967295 < doomsday.seconds ∧ (ofInstant doomsday).seconds = 4294967295 := by
  have covered : leap.Covered := ⟨by decide, by decide⟩
  have ordered : leap ≤ toInstant ⟨60, 0⟩ := by decide
  obtain ⟨adjoint, monotone, greatest⟩ := ofInstant_adjoint_toInstant.1 leap covered
  obtain ⟨early, -, milliseconds, -⟩ := ofInstant_adjoint_toInstant.2.2 eve
  have late : deviceEpoch + 4294967295 < doomsday.seconds := by decide
  exact ⟨covered, by decide, adjoint _ (by decide), ordered, monotone _ (covered_toInstant _) ordered, greatest,
    ofInstant_adjoint_toInstant.2.1 _ (by decide), by decide, early (by decide), milliseconds,
    late, (ofInstant_adjoint_toInstant.2.2 doomsday).2.1 late⟩

end DeviceTime

end FieldClock
