import FieldClock.Proofs.DeviceTime.Instants
import FieldClock.Proofs.Instant.Spelling

/-!
# The texts of device times

Where years have four digits, the texts of instants are ordered as the instants are. So are those of all that a device can
show, and they are equally long.
-/

namespace FieldClock

/-! ### Texts of fixed width -/

namespace Field

theorem flatMap_chars_lt_iff {fs gs : List Field} (marks : fs.map mark = gs.map mark) (widths : fs.map width = gs.map width)
    (left : ∀ f ∈ fs, f.Fits) (right : ∀ g ∈ gs, g.Fits) (rest : List Char) :
    fs.flatMap chars ++ rest < gs.flatMap chars ++ rest ↔ fs.map value < gs.map value := by
  induction fs generalizing gs with
  | nil =>
    rw [List.map_eq_nil_iff.mp widths.symm]
    exact iff_of_false (List.lt_irrefl _) (List.lt_irrefl _)
  | cons f fs ih =>
    obtain ⟨g, gs, rfl, width, laterWidths⟩ := List.map_eq_cons_iff.mp widths.symm
    obtain ⟨mark, laterMarks⟩ := List.cons.inj marks
    obtain ⟨m, w, x⟩ := f
    obtain ⟨_, _, y⟩ := g
    obtain rfl : m = _ := mark
    obtain rfl : w = _ := width.symm
    obtain ⟨⟨wide, small⟩, left⟩ := List.forall_mem_cons.mp left
    obtain ⟨⟨-, small'⟩, right⟩ := List.forall_mem_cons.mp right
    have long : (Numeral.padded w x).length = (Numeral.padded w y).length := by
      rw [Numeral.length_padded wide small, Numeral.length_padded wide small']
    have same : Numeral.padded w x = Numeral.padded w y ↔ x = y := ⟨Numeral.padded_inj, fun same => by rw [same]⟩
    simp only [List.flatMap_cons, List.map_cons, chars, List.cons_append, List.append_assoc, List.cons_lt_cons_iff]
    rw [Numeral.append_lt_append_iff long, Numeral.padded_lt_iff wide small small', same, ih laterMarks laterWidths.symm left right]
    simp

theorem length_flatMap_chars_eq {fs : List Field} (fits : ∀ f ∈ fs, f.Fits) :
    (fs.flatMap chars).length = ((fs.map width).map (· + 1)).sum := by
  rw [List.length_flatMap, List.map_map, List.map_congr_left fun f listed => (fits f listed).length_chars]
  rfl

end Field

namespace Instant

variable {t u : Instant}

/-- The year of an instant has four digits and no sign. -/
def PlainYear (t : Instant) : Prop := 0 ≤ t.date.year ∧ t.date.year ≤ 9999

theorem iso_toList_of_plainYear (plain : t.PlainYear) :
    t.iso.toList = Numeral.padded 4 t.date.year.toNat ++ (t.fields.flatMap Field.chars ++ ['Z']) := by
  have year : yearText t.date.year = Numeral.padded 4 t.date.year.toNat := if_pos plain
  rw [iso_toList, year, List.append_assoc]

/-- Texts with plain years are ordered by the numbers in them. -/
theorem iso_lt_iff_numbers (plain : t.PlainYear) (plain' : u.PlainYear) :
    t.iso < u.iso ↔ t.date.year < u.date.year ∨ t.date.year = u.date.year ∧
      [t.date.month, t.date.day, t.hour, t.minute, t.shownSecond, t.shownMilliseconds] <
        [u.date.month, u.date.day, u.hour, u.minute, u.shownSecond, u.shownMilliseconds] := by
  have small : ∀ {v : Instant}, v.PlainYear → v.date.year.toNat < 10 ^ 4 := fun plain => by
    have := plain.2
    omega
  have long : (Numeral.padded 4 t.date.year.toNat).length = (Numeral.padded 4 u.date.year.toNat).length := by
    rw [Numeral.length_padded (by decide) (small plain), Numeral.length_padded (by decide) (small plain')]
  have marks : t.fields.map Field.mark = u.fields.map Field.mark := by rw [fields, fields, isoFields_marks, isoFields_marks]
  have widths : t.fields.map Field.width = u.fields.map Field.width := by
    rw [fields, fields, isoFields_widths, isoFields_widths]
  have behind := Field.flatMap_chars_lt_iff marks widths t.fields_fit u.fields_fit ['Z']
  rw [fields, fields, isoFields_values, isoFields_values, ← fields, ← fields] at behind
  have chars : t.iso < u.iso ↔ t.iso.toList < u.iso.toList := Iff.rfl
  have years := plain.1
  have years' := plain'.1
  rw [chars, iso_toList_of_plainYear plain, iso_toList_of_plainYear plain', Numeral.append_lt_append_iff long, behind,
    Numeral.padded_lt_iff (by decide) (small plain) (small plain')]
  refine or_congr (by omega) (and_congr ⟨fun same => ?_, fun same => by rw [same]⟩ Iff.rfl)
  have := Numeral.padded_inj same
  omega

/-- Of two times of one day the later one shows greater numbers, also in a leap second. -/
theorem shown_lt_iff {m n a b : Nat} (leap : 1000 ≤ a → m % 60 = 59 ∧ a < 2000) (leap' : 1000 ≤ b → n % 60 = 59 ∧ b < 2000) :
    (m / 3600 < n / 3600 ∨ m / 3600 = n / 3600 ∧ (m / 60 % 60 < n / 60 % 60 ∨ m / 60 % 60 = n / 60 % 60 ∧
      (m % 60 + a / 1000 < n % 60 + b / 1000 ∨ m % 60 + a / 1000 = n % 60 + b / 1000 ∧ a % 1000 < b % 1000))) ↔
      m < n ∨ m = n ∧ a < b := by
  have hours (k : Nat) : k / 3600 = k / 60 / 60 := by omega
  have seconds : (m % 60 + a / 1000 < n % 60 + b / 1000 ∨ m % 60 + a / 1000 = n % 60 + b / 1000 ∧ a % 1000 < b % 1000) ↔
      m % 60 < n % 60 ∨ m % 60 = n % 60 ∧ a < b := by omega
  rw [hours m, hours n, seconds]
  omega

/-- Where years are plain, texts are ordered as the instants are, to the millisecond. -/
theorem iso_lt_iff (plain : t.PlainYear) (plain' : u.PlainYear) :
    t.iso < u.iso ↔
      t.seconds < u.seconds ∨ t.seconds = u.seconds ∧ t.subsecondMilliseconds < u.subsecondMilliseconds := by
  have earlier := Calendar.dayNumber_lt_iff t.stamp_proper.date u.stamp_proper.date
  have later := Calendar.dayNumber_lt_iff u.stamp_proper.date t.stamp_proper.date
  simp only [stamp, dayNumber_date] at earlier later
  simp only [iso_lt_iff_numbers plain plain', List.cons_lt_cons_iff, List.lt_irrefl, and_false, or_false]
  rcases Int.lt_trichotomy (t.seconds / 86400) (u.seconds / 86400) with before | sameDay | behind
  · have lex := earlier.mp before
    omega
  · have date : t.date = u.date := congrArg Calendar.Date.ofDayNumber sameDay
    have shown := shown_lt_iff (@leap_second t) (@leap_second u)
    simp only [date, Int.lt_irrefl, Nat.lt_irrefl, true_and, false_or, hour, minute, shownSecond_eq, shownMilliseconds_eq, shown]
    unfold secondOfDay
    omega
  · have lex := later.mp behind
    omega

end Instant

/-! ### Device times -/

namespace DeviceTime

variable {d e : DeviceTime}

/-- All that a device can show is in years of four digits. -/
theorem plainYear_toInstant (d : DeviceTime) : d.toInstant.PlainYear := by
  have proper : d.toInstant.date.Proper := d.toInstant.stamp_proper.date
  have day := Instant.dayNumber_date d.toInstant
  have small := d.seconds.toNat_lt
  have seconds : d.toInstant.seconds = 946684800 + d.seconds.toNat := rfl
  rw [seconds] at day
  constructor
  · have first : (⟨0, 1, 1⟩ : Calendar.Date).Proper := ⟨by decide, by decide⟩
    have number : (⟨0, 1, 1⟩ : Calendar.Date).dayNumber = -719528 := by decide
    refine Int.not_lt.mp fun early => ?_
    have before := (Calendar.dayNumber_lt_iff proper first).mpr (.inl early)
    rw [number, day] at before
    omega
  · have last : (⟨9999, 12, 31⟩ : Calendar.Date).Proper := ⟨by decide, by decide⟩
    have number : (⟨9999, 12, 31⟩ : Calendar.Date).dayNumber = 2932896 := by decide
    refine Int.not_lt.mp fun late => ?_
    have behind := (Calendar.dayNumber_lt_iff last proper).mpr (.inl late)
    rw [number, day] at behind
    omega

theorem length_iso (d : DeviceTime) : d.toInstant.iso.length = 24 := by
  have plain := d.plainYear_toInstant
  have small : d.toInstant.date.year.toNat < 10 ^ 4 := by
    have := plain.2
    omega
  rw [← String.length_toList, Instant.iso_toList_of_plainYear plain, List.length_append, List.length_append,
    Numeral.length_padded (by decide) small, Field.length_flatMap_chars_eq d.toInstant.fields_fit, Instant.fields,
    isoFields_widths]
  rfl

theorem iso_lt_iff (shown : d.milliseconds ≤ 999) (shown' : e.milliseconds ≤ 999) :
    d.toInstant.iso < e.toInstant.iso ↔ d.totalMilliseconds < e.totalMilliseconds := by
  have small : d.milliseconds.toNat ≤ 999 := UInt16.le_iff_toNat_le.mp shown
  have small' : e.milliseconds.toNat ≤ 999 := UInt16.le_iff_toNat_le.mp shown'
  rw [Instant.iso_lt_iff d.plainYear_toInstant e.plainYear_toInstant, toInstant_seconds, toInstant_seconds,
    toInstant_subsecondMilliseconds, toInstant_subsecondMilliseconds, Nat.min_eq_left small, Nat.min_eq_left small',
    totalMilliseconds, totalMilliseconds]
  omega

/-- The text of an instant spells its second and its milliseconds by the calendar, which counts day after day, and spells
    nothing else. The texts of all that devices can show are equally long and ordered as the times. -/
theorem iso_exact :
    (∀ t : Instant, ∃ s : Stamp, (∀ r, Stamp.Spells t.iso.toList r ↔ r = s) ∧ s.Proper ∧ s.unixSeconds = t.seconds ∧
      (s.second = 60 ↔ 1000000000 ≤ t.nanoseconds) ∧ s.milliseconds = t.nanoseconds % 1000000000 / 1000000) ∧
    ((⟨1970, 1, 1⟩ : Calendar.Date).dayNumber = 0 ∧
      ∀ d : Calendar.Date, d.Proper → d.next.Proper ∧ d.next.dayNumber = d.dayNumber + 1) ∧
    ∀ d e : DeviceTime, d.milliseconds ≤ 999 → e.milliseconds ≤ 999 →
      d.toInstant.iso.length = 24 ∧ (d.toInstant.iso < e.toInstant.iso ↔ d.totalMilliseconds < e.totalMilliseconds) := by
  refine ⟨fun t => ⟨t.stamp, fun r => ⟨fun spelled => ?_, ?_⟩, t.stamp_proper, t.unixSeconds_stamp, t.stamp_leap, rfl⟩,
    ⟨by decide, fun d => Calendar.dayNumber_next⟩, fun d e shown shown' => ⟨d.length_iso, iso_lt_iff shown shown'⟩⟩
  · exact spelled.unique t.spells_iso
  · rintro rfl
    exact t.spells_iso

theorem iso_exact_midnight :
    (⟨1999, 12, 31⟩ : Calendar.Date).Proper ∧ (⟨1999, 12, 31⟩ : Calendar.Date).next.Proper ∧
      (⟨1999, 12, 31⟩ : Calendar.Date).next.dayNumber = (⟨1999, 12, 31⟩ : Calendar.Date).dayNumber + 1 ∧
      (⟨86399, 999⟩ : DeviceTime).milliseconds ≤ 999 ∧ (⟨86400, 0⟩ : DeviceTime).milliseconds ≤ 999 ∧
      (toInstant ⟨86399, 999⟩).iso.length = 24 ∧
      ((toInstant ⟨86399, 999⟩).iso < (toInstant ⟨86400, 0⟩).iso ↔
        (⟨86399, 999⟩ : DeviceTime).totalMilliseconds < (⟨86400, 0⟩ : DeviceTime).totalMilliseconds) := by
  have proper : (⟨1999, 12, 31⟩ : Calendar.Date).Proper := ⟨by decide, by decide⟩
  obtain ⟨next, number⟩ := iso_exact.2.1.2 _ proper
  have shown : (⟨86399, 999⟩ : DeviceTime).milliseconds ≤ 999 := by decide
  have shown' : (⟨86400, 0⟩ : DeviceTime).milliseconds ≤ 999 := by decide
  exact ⟨proper, next, number, shown, shown', iso_exact.2.2 _ _ shown shown'⟩

end DeviceTime

end FieldClock
