import FieldClock.Proofs.Calendar.Succession
import FieldClock.Proofs.Instant.Iso
import FieldClock.Proofs.Text.Decimal

/-!
# What the text of an instant spells

The text of an instant spells a date and a time of day, which are those of its second, and its milliseconds. It spells
nothing else.
-/

namespace FieldClock

/-! ### The spelling -/

/-- A number and so many digits for it. -/
def Numeral.Fixed (width : Nat) (cs : List Char) (n : Nat) : Prop := Numeral.Decimal cs n ∧ cs.length = width

/-- A year and a text for it: four digits, or a sign and no fewer. Zeros stand in front only to make four. -/
inductive SpellsYear : List Char → Int → Prop
  | plain {digits : List Char} {year : Nat} (four : Numeral.Fixed 4 digits year) : SpellsYear digits year
  | after {digits : List Char} {year : Nat} (number : Numeral.Decimal digits year) (beyond : 9999 < year)
      (shortest : digits.head? ≠ some '0') : SpellsYear ('+' :: digits) year
  | before {digits : List Char} {year : Nat} (number : Numeral.Decimal digits year) (below : 0 < year)
      (four : 4 ≤ digits.length) (shortest : 4 < digits.length → digits.head? ≠ some '0') :
      SpellsYear ('-' :: digits) (-year)

/-- The numbers in the text of an instant. -/
@[ext]
structure Stamp where
  date : Calendar.Date
  hour : Nat
  minute : Nat
  second : Nat
  milliseconds : Nat

namespace Stamp

/-- A text of the form `[sign]year-MM-DDTHH:MM:SS.mmmZ` and its numbers. -/
inductive Spells : List Char → Stamp → Prop
  | intro {s : Stamp} {year month day hour minute second milliseconds : List Char}
      (years : SpellsYear year s.date.year) (months : Numeral.Fixed 2 month s.date.month)
      (days : Numeral.Fixed 2 day s.date.day) (hours : Numeral.Fixed 2 hour s.hour)
      (minutes : Numeral.Fixed 2 minute s.minute) (seconds : Numeral.Fixed 2 second s.second)
      (thousandths : Numeral.Fixed 3 milliseconds s.milliseconds) :
      Spells (year ++ '-' :: month ++ '-' :: day ++ 'T' :: hour ++ ':' :: minute ++ ':' :: second ++ '.' :: milliseconds ++
        ['Z']) s

/-- The numbers of a stamp are those of a date and a time of day. Second 60 is a leap second. -/
structure Proper (s : Stamp) : Prop where
  date : s.date.Proper
  hour : s.hour < 24
  minute : s.minute < 60
  second : s.second ≤ 60
  milliseconds : s.milliseconds < 1000

/-- The seconds from 1 January 1970 to a stamp. A leap second belongs to the second 59 before it. -/
def unixSeconds (s : Stamp) : Int := s.date.dayNumber * 86400 + s.hour * 3600 + s.minute * 60 + min s.second 59

end Stamp

/-! ### A text spells one stamp -/

theorem Numeral.Fixed.unique {width m n : Nat} {cs : List Char} (first : Fixed width cs m) (second : Fixed width cs n) : m = n := by
  rw [← (decimal_iff.mp first.1).2, (decimal_iff.mp second.1).2]

/-- Fields of one width are the same where texts end in them. -/
theorem Numeral.Fixed.peel {width m n : Nat} {front front' cs ds : List Char} {c : Char} (first : Fixed width cs m)
    (second : Fixed width ds n) (same : front ++ c :: cs = front' ++ c :: ds) : front = front' ∧ m = n := by
  obtain ⟨fronts, backs⟩ := List.append_inj' same (by simp [first.2, second.2])
  obtain rfl := (List.cons.inj backs).2
  exact ⟨fronts, first.unique second⟩

/-- The year that a text spells, by its sign. -/
def yearOf : List Char → Int
  | '+' :: digits => Numeral.value digits
  | '-' :: digits => -Numeral.value digits
  | digits => Numeral.value digits

theorem SpellsYear.eq_yearOf {cs : List Char} {year : Int} (spelled : SpellsYear cs year) : year = yearOf cs := by
  cases spelled with
  | plain four =>
    obtain ⟨digits, rfl⟩ := Numeral.decimal_iff.mp four.1
    unfold yearOf
    split
    · cases digits
    · cases digits
    · rfl
  | after number _ _ => rw [yearOf, (Numeral.decimal_iff.mp number).2]
  | before number _ _ _ => rw [yearOf, (Numeral.decimal_iff.mp number).2]

theorem Stamp.Spells.unique {cs : List Char} {r s : Stamp} (first : Spells cs r) (second : Spells cs s) : r = s := by
  obtain ⟨years, months, days, hours, minutes, seconds, thousandths⟩ := first
  generalize whole : _ ++ ['Z'] = text at second
  obtain ⟨years', months', days', hours', minutes', seconds', thousandths'⟩ := second
  -- All fields behind the year are of fixed width, so they are taken off from the end.
  obtain ⟨whole, milliseconds⟩ := thousandths.peel thousandths' (List.append_cancel_right whole)
  obtain ⟨whole, second⟩ := seconds.peel seconds' whole
  obtain ⟨whole, minute⟩ := minutes.peel minutes' whole
  obtain ⟨whole, hour⟩ := hours.peel hours' whole
  obtain ⟨whole, day⟩ := days.peel days' whole
  obtain ⟨rfl, month⟩ := months.peel months' whole
  have year := years.eq_yearOf.trans years'.eq_yearOf.symm
  exact Stamp.ext (Calendar.date_ext year month day) hour minute second milliseconds

theorem Numeral.fixed_padded {width n : Nat} (wide : 0 < width) (small : n < 10 ^ width) : Fixed width (padded width n) n :=
  ⟨decimal_padded width n, length_padded wide small⟩

theorem Numeral.head?_padded_ne_zero {width n : Nat} (long : width < (padded width n).length) (positive : 0 < n) :
    (padded width n).head? ≠ some '0' := by
  rw [padded, List.length_leftpad] at long
  have unpadded : width - (Nat.toDigits 10 n).length = 0 := by omega
  rw [padded, List.leftpad, unpadded]
  exact head?_toDigits_ne_zero positive

theorem Numeral.lt_length_padded {width n : Nat} (wide : 0 < width) (large : 10 ^ width ≤ n) :
    width < (padded width n).length := by
  have long : ¬ (Nat.toDigits 10 n).length ≤ width := by
    rw [Nat.length_toDigits_le_iff (by decide) wide]
    exact Nat.not_lt.mpr large
  rw [padded, List.length_leftpad]
  omega

theorem spellsYear_yearText (year : Int) : SpellsYear (yearText year) year := by
  have long (n : Nat) : 4 ≤ (Numeral.padded 4 n).length := by
    rw [Numeral.padded, List.length_leftpad]
    exact Nat.le_max_left _ _
  unfold yearText
  split
  · rename_i plain
    have number : year = (year.toNat : Nat) := by omega
    rw [number]
    exact .plain (Numeral.fixed_padded (by decide) (by omega))
  · rename_i signed
    split
    · rename_i below
      have number : year = -(year.natAbs : Nat) := by omega
      have positive : 0 < year.natAbs := by omega
      rw [number, Int.natAbs_neg, Int.natAbs_natCast]
      exact .before (Numeral.decimal_padded _ _) positive (long _) fun more => Numeral.head?_padded_ne_zero more positive
    · rename_i above
      have number : year = (year.natAbs : Nat) := by omega
      have beyond : 9999 < year.natAbs := by omega
      rw [number, Int.natAbs_natCast]
      exact .after (Numeral.decimal_padded _ _) beyond
        (Numeral.head?_padded_ne_zero (Numeral.lt_length_padded (by decide) beyond) (by omega))

theorem Stamp.spells_padded {s : Stamp} (proper : s.Proper) :
    Spells (yearText s.date.year ++ '-' :: Numeral.padded 2 s.date.month ++ '-' :: Numeral.padded 2 s.date.day ++
      'T' :: Numeral.padded 2 s.hour ++ ':' :: Numeral.padded 2 s.minute ++ ':' :: Numeral.padded 2 s.second ++
      '.' :: Numeral.padded 3 s.milliseconds ++ ['Z']) s := by
  have two : ∀ {n}, n < 100 → Numeral.Fixed 2 (Numeral.padded 2 n) n := fun small => Numeral.fixed_padded Nat.two_pos small
  have months := proper.date.month.2
  have days := proper.date.day_le
  have hours := proper.hour
  have minutes := proper.minute
  have seconds := proper.second
  exact .intro (spellsYear_yearText _) (two (by omega)) (two (by omega)) (two (by omega)) (two (by omega)) (two (by omega))
    (Numeral.fixed_padded (Nat.succ_pos 2) proper.milliseconds)

namespace Instant

variable {t u : Instant}

/-- The numbers that are shown of an instant. -/
def stamp (t : Instant) : Stamp := ⟨t.date, t.hour, t.minute, t.shownSecond, t.shownMilliseconds⟩

theorem stamp_proper (t : Instant) : t.stamp.Proper where
  date := Calendar.ofDayNumber_proper _
  hour := by
    have := t.secondOfDay_lt
    show t.secondOfDay / 3600 < 24
    omega
  minute := Nat.mod_lt _ (by decide)
  second := t.shownSecond_le
  milliseconds := by
    show t.nanoseconds % 1000000000 / 1000000 < 1000
    omega

theorem spells_iso (t : Instant) : Stamp.Spells t.iso.toList t.stamp := by
  have spelled := Stamp.spells_padded t.stamp_proper
  simp only [stamp] at spelled ⊢
  rwa [iso, String.toList_ofList]

theorem dayNumber_date (t : Instant) : t.date.dayNumber = t.seconds / 86400 := Calendar.dayNumber_ofDayNumber _

theorem unixSeconds_stamp (t : Instant) : t.stamp.unixSeconds = t.seconds := by
  have long := t.nanoseconds_lt
  simp only [Stamp.unixSeconds, stamp, dayNumber_date, hour, minute, shownSecond, secondOfDay]
  omega

theorem stamp_leap (t : Instant) : t.stamp.second = 60 ↔ 1000000000 ≤ t.nanoseconds := by
  have long := t.nanoseconds_lt
  simp only [stamp, shownSecond, secondOfDay]
  omega

end Instant

end FieldClock
