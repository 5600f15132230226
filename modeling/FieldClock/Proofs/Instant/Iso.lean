import FieldClock.Instant.Iso
import FieldClock.Proofs.Calendar
import FieldClock.Proofs.Text.Numeral

/-!
# Instants and their text

The text of an instant tells its second and its milliseconds. What it cuts off is all that two instants with one text can
differ in.
-/

namespace FieldClock

/-! ### Years -/

theorem yearText_injective {y z : Int} (same : yearText y = yearText z) : y = z := by
  -- A year with a sign begins with no digit, so it is not mistaken for one without.
  have unsigned : ∀ (n m : Nat) (sign : Char), sign.isDigit = false → Numeral.padded 4 n ≠ sign :: Numeral.padded 4 m := by
    intro n m sign nodigit same
    have digit := Numeral.isDigit_padded 4 n sign (same ▸ List.mem_cons_self)
    rw [nodigit] at digit
    cases digit
  have sign : ∀ year : Int, (if year < 0 then '-' else '+').isDigit = false := fun year => by split <;> rfl
  unfold yearText at same
  by_cases plain : 0 ≤ y ∧ y ≤ 9999 <;> by_cases plain' : 0 ≤ z ∧ z ≤ 9999
  · rw [if_pos plain, if_pos plain'] at same
    have := Numeral.padded_inj same
    omega
  · rw [if_pos plain, if_neg plain'] at same
    exact absurd same (unsigned _ _ _ (sign z))
  · rw [if_neg plain, if_pos plain'] at same
    exact absurd same.symm (unsigned _ _ _ (sign y))
  · rw [if_neg plain, if_neg plain'] at same
    obtain ⟨signs, digits⟩ := List.cons.inj same
    have := Numeral.padded_inj digits
    by_cases negative : y < 0 <;> by_cases negative' : z < 0 <;> simp only [negative, negative', if_true, if_false] at signs
    · omega
    · cases signs
    · cases signs
    · omega

/-! ### Fields -/

/-- A mark and a number of fixed width behind it. -/
structure Field where
  mark : Char
  width : Nat
  value : Nat

namespace Field

/-- The characters of a field. -/
def chars (f : Field) : List Char := f.mark :: Numeral.padded f.width f.value

/-- A field that has room for its number. -/
structure Fits (f : Field) : Prop where
  wide : 0 < f.width
  small : f.value < 10 ^ f.width

theorem Fits.length_chars {f : Field} (fits : f.Fits) : f.chars.length = f.width + 1 := by
  rw [chars, List.length_cons, Numeral.length_padded fits.wide fits.small]

theorem length_flatMap_chars {fs gs : List Field} (widths : fs.map width = gs.map width) (left : ∀ f ∈ fs, f.Fits)
    (right : ∀ g ∈ gs, g.Fits) : (fs.flatMap chars).length = (gs.flatMap chars).length := by
  induction fs generalizing gs with
  | nil => rw [List.map_eq_nil_iff.mp widths.symm]
  | cons f fs ih =>
    obtain ⟨g, gs, rfl, width, widths⟩ := List.map_eq_cons_iff.mp widths.symm
    rw [List.forall_mem_cons] at left right
    rw [List.flatMap_cons, List.flatMap_cons, List.length_append, List.length_append, left.1.length_chars,
      right.1.length_chars, width, ih widths.symm left.2 right.2]

theorem values_eq {fs gs : List Field} (widths : fs.map width = gs.map width) (left : ∀ f ∈ fs, f.Fits)
    (right : ∀ g ∈ gs, g.Fits) (same : fs.flatMap chars = gs.flatMap chars) : fs.map value = gs.map value := by
  induction fs generalizing gs with
  | nil => rw [List.map_eq_nil_iff.mp widths.symm]
  | cons f fs ih =>
    obtain ⟨g, gs, rfl, width, widths⟩ := List.map_eq_cons_iff.mp widths.symm
    rw [List.forall_mem_cons] at left right
    rw [List.flatMap_cons, List.flatMap_cons] at same
    have long : f.chars.length = g.chars.length := by rw [left.1.length_chars, right.1.length_chars, width]
    obtain ⟨first, behind⟩ := List.append_inj same long
    have digits := (List.cons.inj first).2
    rw [width] at digits
    rw [List.map_cons, List.map_cons, Numeral.padded_inj digits, ih widths.symm left.2 right.2 behind]

end Field

section
variable (month day hour minute second milliseconds : Nat)

/-- The fields of an ISO text behind the year. -/
def isoFields : List Field :=
  [⟨'-', 2, month⟩, ⟨'-', 2, day⟩, ⟨'T', 2, hour⟩, ⟨':', 2, minute⟩, ⟨':', 2, second⟩, ⟨'.', 3, milliseconds⟩]

theorem isoFields_marks :
    (isoFields month day hour minute second milliseconds).map Field.mark = ['-', '-', 'T', ':', ':', '.'] := rfl

theorem isoFields_widths : (isoFields month day hour minute second milliseconds).map Field.width = [2, 2, 2, 2, 2, 3] := rfl

theorem isoFields_values : (isoFields month day hour minute second milliseconds).map Field.value =
    [month, day, hour, minute, second, milliseconds] := rfl

theorem isoFields_chars : (isoFields month day hour minute second milliseconds).flatMap Field.chars =
    '-' :: Numeral.padded 2 month ++ '-' :: Numeral.padded 2 day ++ 'T' :: Numeral.padded 2 hour ++
      ':' :: Numeral.padded 2 minute ++ ':' :: Numeral.padded 2 second ++ '.' :: Numeral.padded 3 milliseconds := by
  simp [isoFields, Field.chars]

variable {month day hour minute second milliseconds} in
theorem isoFields_fit (months : month ≤ 12) (days : day ≤ 31) (hours : hour < 24) (minutes : minute < 60)
    (seconds : second ≤ 60) (thousandths : milliseconds < 1000) :
    ∀ f ∈ isoFields month day hour minute second milliseconds, f.Fits := by
  have two : ∀ mark {value}, value < 100 → (⟨mark, 2, value⟩ : Field).Fits := fun _ _ small => ⟨Nat.two_pos, small⟩
  have three : ∀ mark {value}, value < 1000 → (⟨mark, 3, value⟩ : Field).Fits := fun _ _ small => ⟨Nat.succ_pos 2, small⟩
  simp only [isoFields, List.forall_mem_cons]
  exact ⟨two _ (by omega), two _ (by omega), two _ (by omega), two _ (by omega), two _ (by omega), three _ thousandths,
    fun _ none => absurd none List.not_mem_nil⟩

end

/-! ### Instants -/

namespace Instant

theorem secondOfDay_lt (t : Instant) : t.secondOfDay < 86400 := by
  unfold secondOfDay
  omega

theorem shownSecond_le (t : Instant) : t.shownSecond ≤ 60 := by
  have := t.nanoseconds_lt
  unfold shownSecond
  omega

/-- What the text of an instant tells behind its year. -/
def fields (t : Instant) : List Field :=
  isoFields t.date.month t.date.day t.hour t.minute t.shownSecond t.shownMilliseconds

theorem iso_toList (t : Instant) : t.iso.toList = yearText t.date.year ++ t.fields.flatMap Field.chars ++ ['Z'] := by
  rw [iso, String.toList_ofList, fields, isoFields_chars]
  simp only [List.append_assoc]

theorem fields_fit (t : Instant) : ∀ f ∈ t.fields, f.Fits := by
  have inDay := t.secondOfDay_lt
  have hour : t.hour < 24 := by
    unfold hour
    omega
  have minute : t.minute < 60 := by
    unfold minute
    omega
  have milliseconds : t.shownMilliseconds < 1000 := by
    unfold shownMilliseconds
    omega
  exact isoFields_fit (Calendar.ofDayNumber_month_le _) (Calendar.ofDayNumber_day_le _) hour minute t.shownSecond_le
    milliseconds

theorem shownSecond_eq (t : Instant) : t.shownSecond = t.secondOfDay % 60 + t.subsecondMilliseconds / 1000 := by
  unfold shownSecond subsecondMilliseconds
  omega

theorem shownMilliseconds_eq (t : Instant) : t.shownMilliseconds = t.subsecondMilliseconds % 1000 := by
  unfold shownMilliseconds subsecondMilliseconds
  omega

theorem leap_second {t : Instant} (long : 1000 ≤ t.subsecondMilliseconds) :
    t.secondOfDay % 60 = 59 ∧ t.subsecondMilliseconds < 2000 := by
  have := t.nanoseconds_lt
  unfold subsecondMilliseconds at long ⊢
  unfold secondOfDay
  omega

theorem shown_eq {t u : Instant} (same : t.iso = u.iso) :
    t.date = u.date ∧ t.hour = u.hour ∧ t.minute = u.minute ∧ t.shownSecond = u.shownSecond ∧
      t.shownMilliseconds = u.shownMilliseconds := by
  have chars := congrArg String.toList same
  rw [iso_toList, iso_toList] at chars
  have widths : t.fields.map Field.width = u.fields.map Field.width := by
    rw [fields, fields, isoFields_widths, isoFields_widths]
  obtain ⟨years, behind⟩ := List.append_inj' (List.append_cancel_right chars)
    (Field.length_flatMap_chars widths t.fields_fit u.fields_fit)
  have values := Field.values_eq widths t.fields_fit u.fields_fit behind
  rw [fields, fields, isoFields_values, isoFields_values] at values
  simp only [List.cons.injEq, and_true] at values
  obtain ⟨months, days, clock⟩ := values
  exact ⟨Calendar.date_ext (yearText_injective years) months days, clock⟩

/-- Two instants have one text just if they are in the same second and the same millisecond of it. -/
theorem iso_eq_iff {t u : Instant} :
    t.iso = u.iso ↔ t.seconds = u.seconds ∧ t.subsecondMilliseconds = u.subsecondMilliseconds := by
  constructor
  · intro same
    obtain ⟨dates, hours, minutes, seconds, thousandths⟩ := shown_eq same
    have sameDay : t.seconds / 86400 = u.seconds / 86400 := Calendar.ofDayNumber_injective dates
    -- A leap second is shown as second 60, which no other second is.
    rw [shownSecond_eq, shownSecond_eq] at seconds
    rw [shownMilliseconds_eq, shownMilliseconds_eq] at thousandths
    have leap := @leap_second t
    have leap' := @leap_second u
    unfold Instant.hour at hours
    unfold Instant.minute at minutes
    have sameMilliseconds : t.subsecondMilliseconds = u.subsecondMilliseconds := by omega
    have sameSecond : t.secondOfDay = u.secondOfDay := by omega
    unfold secondOfDay at sameSecond
    omega
  · rintro ⟨seconds, milliseconds⟩
    have sameSecond : t.secondOfDay = u.secondOfDay := by rw [secondOfDay, secondOfDay, seconds]
    unfold iso
    rw [date, date, hour, hour, minute, minute, shownSecond_eq, shownSecond_eq, shownMilliseconds_eq, shownMilliseconds_eq,
      sameSecond, seconds, milliseconds]

end Instant

end FieldClock
