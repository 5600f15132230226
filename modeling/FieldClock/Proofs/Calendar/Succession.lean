import FieldClock.Proofs.Calendar

/-!
# One day after the other

The number of a date counts the days of the calendar: the day after a date has the next number, and a later date a greater
one.
-/

namespace FieldClock.Calendar

/-- The length of a month of a year. There are twelve. -/
def daysInMonth (year : Int) (month : Nat) : Nat := (monthLengths (isLeap year)).getD (month - 1) 0

/-- The length of a year. -/
def daysInYear (year : Int) : Nat := if isLeap year then 366 else 365

/-- A date that the calendar has. -/
structure Date.Proper (d : Date) : Prop where
  month : 1 ≤ d.month ∧ d.month ≤ 12
  day : 1 ≤ d.day ∧ d.day ≤ daysInMonth d.year d.month

theorem Date.Proper.day_le {d : Date} (proper : d.Proper) : d.day ≤ 31 := by
  have all : ∀ leap, ∀ i < 12, (monthLengths leap).getD i 0 ≤ 31 := by decide
  have months := proper.month
  exact Nat.le_trans proper.day.2 (all _ _ (by omega))

/-- The day after a date. -/
def Date.next (d : Date) : Date :=
  if d.day < daysInMonth d.year d.month then { d with day := d.day + 1 }
  else if d.month < 12 then ⟨d.year, d.month + 1, 1⟩
  else ⟨d.year + 1, 1, 1⟩

theorem ofDayNumber_proper (n : Int) : (Date.ofDayNumber n).Proper := by
  obtain ⟨i, day, long, month, shown, within⟩ := ofDayNumber_inMonth n
  constructor
  · rw [month]
    exact ⟨Nat.le_add_left 1 i, long⟩
  · have length : daysInMonth (Date.ofDayNumber n).year (i + 1) = (monthLengths (isLeap (Date.ofDayNumber n).year))[i] := by
      simp [daysInMonth, List.getD_eq_getElem?_getD, long]
    rw [month, shown, length]
    exact ⟨Nat.le_add_left 1 day, within⟩

/-! ### Months and years in days -/

section
variable {year later : Int} {month : Nat}

theorem daysInMonth_pos (first : 1 ≤ month) (last : month ≤ 12) : 1 ≤ daysInMonth year month := by
  have all : ∀ leap, ∀ i < 12, 1 ≤ (monthLengths leap).getD i 0 := by decide
  exact all _ _ (by omega)

theorem daysBeforeMonth_next (first : 1 ≤ month) (last : month < 12) :
    daysBeforeMonth (isLeap year) (month + 1) = daysBeforeMonth (isLeap year) month + daysInMonth year month := by
  have all : ∀ leap, ∀ i < 11, daysBeforeMonth leap (i + 2) = daysBeforeMonth leap (i + 1) + (monthLengths leap).getD i 0 := by
    decide
  obtain ⟨i, rfl⟩ := Nat.exists_eq_add_of_le' first
  exact all _ i (by omega)

theorem daysBeforeMonth_mono {month later : Nat} (first : 1 ≤ month) (before : month < later) (last : later ≤ 12) :
    daysBeforeMonth (isLeap year) month + daysInMonth year month ≤ daysBeforeMonth (isLeap year) later := by
  induction before with
  | refl => exact Nat.le_of_eq (daysBeforeMonth_next first last).symm
  | @step later before ih =>
    rw [daysBeforeMonth_next (Nat.le_trans first (Nat.le_of_lt before)) last]
    exact Nat.le_trans (ih (Nat.le_of_lt last)) (Nat.le_add_right _ _)

theorem daysBeforeDecember : daysBeforeMonth (isLeap year) 12 + daysInMonth year 12 = daysInYear year := by
  unfold daysInMonth daysInYear
  cases isLeap year <;> rfl

theorem daysBeforeMonth_within (first : 1 ≤ month) (last : month ≤ 12) :
    daysBeforeMonth (isLeap year) month + daysInMonth year month ≤ daysInYear year := by
  rw [← daysBeforeDecember]
  rcases Nat.lt_or_eq_of_le last with before | rfl
  · exact Nat.le_trans (daysBeforeMonth_mono first before (Nat.le_refl 12)) (Nat.le_add_right _ _)
  · exact Nat.le_refl _

theorem daysBeforeYear_next (year : Int) : daysBeforeYear (year + 1) = daysBeforeYear year + daysInYear year := by
  have leap : isLeap year = true ↔ _ := isLeap_iff
  unfold daysBeforeYear daysInYear
  split
  · rename_i yes
    have := leap.mp yes
    omega
  · rename_i no
    have := mt leap.mpr no
    omega

theorem daysBeforeYear_mono (before : year < later) : daysBeforeYear (year + 1) ≤ daysBeforeYear later := by
  unfold daysBeforeYear
  omega

end

/-! ### The numbers of dates -/

section
variable {d e : Date}

theorem dayNumber_bounds (proper : d.Proper) :
    daysBeforeYear d.year - unixEpochDay ≤ d.dayNumber ∧ d.dayNumber < daysBeforeYear (d.year + 1) - unixEpochDay := by
  have inYear : _ ≤ daysInYear d.year := daysBeforeMonth_within proper.month.1 proper.month.2
  have inMonth := proper.day
  rw [daysBeforeYear_next, Date.dayNumber]
  omega

/-- The dates of the calendar come one after the other, and each has the number after the one before. -/
theorem dayNumber_next (proper : d.Proper) : d.next.Proper ∧ d.next.dayNumber = d.dayNumber + 1 := by
  obtain ⟨⟨first, last⟩, begun, within⟩ := proper
  unfold Date.next
  split
  · rename_i inMonth
    refine ⟨⟨⟨first, last⟩, Nat.le_add_left 1 d.day, inMonth⟩, ?_⟩
    simp only [Date.dayNumber]
    omega
  rename_i monthEnds
  split
  · rename_i inYear
    refine ⟨⟨⟨Nat.le_add_left 1 d.month, inYear⟩, Nat.le_refl 1, daysInMonth_pos (Nat.le_add_left 1 d.month) inYear⟩, ?_⟩
    simp only [Date.dayNumber, daysBeforeMonth_next first inYear]
    omega
  · rename_i yearEnds
    have short : 1 ≤ 12 := by decide
    refine ⟨⟨⟨Nat.le_refl 1, short⟩, Nat.le_refl 1, daysInMonth_pos (Nat.le_refl 1) short⟩, ?_⟩
    have december : d.month = 12 := by omega
    have january : daysBeforeMonth (isLeap (d.year + 1)) 1 = 0 := rfl
    have whole : _ = daysInYear d.year := daysBeforeDecember
    rw [december] at within monthEnds
    simp only [Date.dayNumber, january, daysBeforeYear_next, december]
    omega

/-- Of two dates the later one has the greater number. -/
theorem dayNumber_lt_of_later (proper : d.Proper) (proper' : e.Proper)
    (later : d.year < e.year ∨ d.year = e.year ∧ (d.month < e.month ∨ d.month = e.month ∧ d.day < e.day)) :
    d.dayNumber < e.dayNumber := by
  rcases later with year | ⟨year, month | ⟨month, day⟩⟩
  · have := daysBeforeYear_mono year
    have := (dayNumber_bounds proper).2
    have := (dayNumber_bounds proper').1
    omega
  · have months : _ + daysInMonth d.year d.month ≤ daysBeforeMonth (isLeap d.year) e.month :=
      daysBeforeMonth_mono proper.month.1 month proper'.month.2
    have := proper.day
    have := proper'.day
    simp only [Date.dayNumber, ← year]
    omega
  · have := proper.day.1
    simp only [Date.dayNumber, ← year, ← month]
    omega

/-- Dates are ordered by year, month and day as their numbers are. -/
theorem dayNumber_lt_iff (proper : d.Proper) (proper' : e.Proper) :
    d.dayNumber < e.dayNumber ↔
      d.year < e.year ∨ d.year = e.year ∧ (d.month < e.month ∨ d.month = e.month ∧ d.day < e.day) := by
  refine ⟨fun before => ?_, dayNumber_lt_of_later proper proper'⟩
  refine Decidable.byContradiction fun earlier => ?_
  have back := mt (dayNumber_lt_of_later proper' proper) (Int.not_lt.mpr (Int.le_of_lt before))
  have same : d = e := date_ext (by omega) (by omega) (by omega)
  rw [same] at before
  exact Int.lt_irrefl _ before

end

end FieldClock.Calendar
