import FieldClock.Calendar
import Mathlib.Algebra.GroupWithZero.Nat

/-!
# Days and dates

The date that is found for a day is numbered by this day, and it is one of the calendar: its month is one of twelve and its
day one of the month.
-/

namespace FieldClock.Calendar

/-! ### Months -/

/-- The month of a day of the year is the one in whose days it falls. -/
theorem monthAndDay_spec {lengths : List Nat} {n : Nat} (inYear : n < lengths.sum) (first : Nat) :
    ∃ i day, monthAndDay first lengths n = (first + i, day + 1) ∧ (∃ long : i < lengths.length, day < lengths[i]) ∧
      (lengths.take i).sum + day = n := by
  induction lengths generalizing first n with
  | nil => simp at inYear
  | cons length rest ih =>
    rw [monthAndDay]
    split
    · rename_i here
      exact ⟨0, n, rfl, ⟨by simp, here⟩, by simp⟩
    · rename_i later
      rw [List.sum_cons] at inYear
      obtain ⟨i, day, found, ⟨long, within⟩, passed⟩ := ih (show n - length < rest.sum by omega) (first + 1)
      refine ⟨i + 1, day, ?_, ⟨by simpa using long, by simpa using within⟩, ?_⟩
      · rw [found, Nat.add_assoc, Nat.add_comm 1]
      · rw [List.take_succ_cons, List.sum_cons]
        omega

theorem monthLengths_sum (leap : Bool) : (monthLengths leap).sum = if leap then 366 else 365 := by
  cases leap <;> rfl

theorem daysBeforeMonth_succ (leap : Bool) (i : Nat) : daysBeforeMonth leap (i + 1) = ((monthLengths leap).take i).sum :=
  List.sum_eq_foldl.symm

/-! ### Years -/

theorem isLeap_iff {year : Int} : isLeap year = true ↔ year % 4 = 0 ∧ (year % 100 ≠ 0 ∨ year % 400 = 0) := by
  simp [isLeap]

/-- The days before a year are those of the whole cycles before it. -/
theorem daysBeforeYear_cycles (q : Int) {c k y : Nat} (centuries : c ≤ 3) (quadrennia : k ≤ 24) (years : y ≤ 3) :
    daysBeforeYear (q * 400 + c * 100 + k * 4 + y + 1) = 146097 * q + 36524 * c + 1461 * k + 365 * y := by
  unfold daysBeforeYear
  omega

/-- The fourth year of four has a 29 February, but for the last of a century that does not end a cycle. -/
theorem isLeap_cycles (q : Int) {c k y : Nat} (quadrennia : k ≤ 24) (fourth : y = 3) (whole : k = 24 → c = 3) :
    isLeap (q * 400 + c * 100 + k * 4 + y + 1) = true := by
  rw [isLeap_iff]
  omega

/-- The year of a day is the one in whose days it falls. -/
theorem exists_year (n : Int) : ∃ (year : Int) (day : Nat),
    Date.ofDayNumber n = ⟨year, (monthAndDay 1 (monthLengths (isLeap year)) day).1,
      (monthAndDay 1 (monthLengths (isLeap year)) day).2⟩ ∧
    n + unixEpochDay = daysBeforeYear year + day ∧ day < (monthLengths (isLeap year)).sum := by
  refine ⟨_, _, rfl, ?_⟩
  -- Cycles are counted from the longest on. All of a kind but the last in the next longer one are equally long.
  have parts := Int.mul_ediv_add_emod (n + unixEpochDay) 146097
  have cycle : ((n + unixEpochDay) % 146097).toNat < 146097 := by omega
  have positive : ((n + unixEpochDay) % 146097).toNat = (n + unixEpochDay) % 146097 := by omega
  generalize (n + unixEpochDay) / 146097 = q at *
  generalize ((n + unixEpochDay) % 146097).toNat = d at *
  obtain ⟨c, hc⟩ : ∃ c, c = min (d / 36524) 3 := ⟨_, rfl⟩
  obtain ⟨d₁, hd₁⟩ : ∃ d₁, d₁ = d - c * 36524 := ⟨_, rfl⟩
  obtain ⟨y, hy⟩ : ∃ y, y = min (d₁ % 1461 / 365) 3 := ⟨_, rfl⟩
  obtain ⟨k, hk⟩ : ∃ k, k = d₁ / 1461 := ⟨_, rfl⟩
  simp only [← hc, ← hd₁, ← hk, ← hy]
  have small : k ≤ 24 := by omega
  rw [daysBeforeYear_cycles q (by omega) small (by omega), monthLengths_sum]
  refine ⟨by omega, ?_⟩
  by_cases last : y = 3 ∧ (k = 24 → c = 3)
  · obtain ⟨fourth, whole⟩ := last
    rw [if_pos (isLeap_cycles q small fourth whole)]
    omega
  · split <;> omega

/-! ### Dates -/

theorem date_ext {d e : Date} (year : d.year = e.year) (month : d.month = e.month) (day : d.day = e.day) : d = e := by
  cases d
  cases e
  simp_all

/-- The date that is found for a day is one of the calendar. -/
theorem ofDayNumber_inMonth (n : Int) : ∃ (i day : Nat) (long : i < (monthLengths (isLeap (Date.ofDayNumber n).year)).length),
    (Date.ofDayNumber n).month = i + 1 ∧ (Date.ofDayNumber n).day = day + 1 ∧
      day < (monthLengths (isLeap (Date.ofDayNumber n).year))[i] := by
  obtain ⟨year, day, found, -, inYear⟩ := exists_year n
  obtain ⟨i, day, months, ⟨long, within⟩, -⟩ := monthAndDay_spec inYear 1
  rw [found, months]
  exact ⟨i, day, long, Nat.add_comm 1 i, rfl, within⟩

/-- The date that is found for a day is numbered by this day. -/
@[simp] theorem dayNumber_ofDayNumber (n : Int) : (Date.ofDayNumber n).dayNumber = n := by
  obtain ⟨year, day, found, years, inYear⟩ := exists_year n
  obtain ⟨i, day, months, -, passed⟩ := monthAndDay_spec inYear 1
  rw [found, months, Date.dayNumber, Nat.add_comm 1 i, daysBeforeMonth_succ]
  simp only
  omega

theorem ofDayNumber_injective {m n : Int} (same : Date.ofDayNumber m = Date.ofDayNumber n) : m = n := by
  rw [← dayNumber_ofDayNumber m, same, dayNumber_ofDayNumber]

theorem ofDayNumber_month_le (n : Int) : (Date.ofDayNumber n).month ≤ 12 := by
  obtain ⟨i, -, long, month, -⟩ := ofDayNumber_inMonth n
  rw [month]
  exact long

theorem ofDayNumber_day_le (n : Int) : (Date.ofDayNumber n).day ≤ 31 := by
  obtain ⟨i, day, long, -, found, within⟩ := ofDayNumber_inMonth n
  have most : ∀ leap, ∀ length ∈ monthLengths leap, length ≤ 31 := by decide
  have := most _ _ (List.getElem_mem long)
  omega

end FieldClock.Calendar
