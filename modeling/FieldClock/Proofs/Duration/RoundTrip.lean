import FieldClock.Duration.Written
import FieldClock.Proofs.Duration.Spans

/-!
# Written durations are read back

The text of a duration is a run of spans that add up to it: whole seconds in units from the year down, then the rest in units
below the second. No sum on the way leaves 64 bits.
-/

namespace FieldClock.Duration

/-! ### Sums -/

section
variable {sum : Sum} {a b k : Nat} {name : String} {u : Unit}

theorem giga_lt_bound64 : 1000000000 < bound64 := by decide

theorem addChecked_eq_ok (fits : a + b < bound64) : addChecked a b = .ok (a + b) := if_pos fits

theorem add_eq_ok {seconds nanoseconds : Nat} (fits : a + seconds < bound64) (below : b + nanoseconds < 1000000000) :
    (Sum.mk a b).add seconds nanoseconds = .ok ⟨a + seconds, b + nanoseconds⟩ := by
  have whole : (b + nanoseconds) / 1000000000 = 0 := Nat.div_eq_of_lt below
  have rest : (b + nanoseconds) % 1000000000 = b + nanoseconds := Nat.mod_eq_of_lt below
  rw [Sum.add, addChecked_eq_ok (Nat.lt_trans below giga_lt_bound64)]
  show (addChecked seconds _ >>= _) = _
  rw [whole, addChecked_eq_ok (by omega)]
  show (addChecked a _ >>= _) = _
  rw [Nat.add_zero, addChecked_eq_ok fits, rest]
  rfl

theorem mulChecked_eq_ok (fits : a * b < bound64) : mulChecked a b = .ok (a * b) := if_pos fits

theorem addTo_of_named (named : Unit.ofName? name = some u) (n : Nat) :
    Span.addTo sum ⟨n, name⟩ = sum.addGrain n 1 u.grain := by
  rw [Span.addTo, Sum.addSpan, named]
  exact bind_pure _

theorem addTo_seconds (named : Unit.ofName? name = some u) (grain : u.grain = .seconds k) {n : Nat}
    (fits : a + n * k < bound64) (below : b < 1000000000) :
    Span.addTo ⟨a, b⟩ ⟨n, name⟩ = .ok ⟨a + n * k, b⟩ := by
  rw [addTo_of_named named, grain, Sum.addGrain, mulChecked_eq_ok (by omega)]
  show (if n * k % 1 = 0 then Sum.add ⟨a, b⟩ (n * k / 1) 0 else _) = _
  rw [if_pos (Nat.mod_one _), Nat.div_one, add_eq_ok fits below]
  rfl

theorem addTo_nanoseconds (named : Unit.ofName? name = some u) (grain : u.grain = .nanoseconds k) {n : Nat}
    (fits : a < bound64) (below : b + n * k < 1000000000) : Span.addTo ⟨a, b⟩ ⟨n, name⟩ = .ok ⟨a, b + n * k⟩ := by
  have small : n * k < bound64 := Nat.lt_trans (Nat.lt_of_le_of_lt (Nat.le_add_left _ b) below) giga_lt_bound64
  rw [addTo_of_named named, grain, Sum.addGrain, mulChecked_eq_ok small]
  show (if n * k % 1 = 0 then Sum.add ⟨a, b⟩ 0 (n * k / 1) else _) = _
  rw [if_pos (Nat.mod_one _), Nat.div_one, add_eq_ok fits below]
  rfl

/-! ### Spans of a duration -/

/-- A span that is written unless it is empty. -/
def present (n : Nat) (name : String) : List Span := if n = 0 then [] else [⟨n, name⟩]

/-- The name of a unit that has an ending of its own for more than one. -/
def inflected (n : Nat) (name : String) : String := name ++ if n > 1 then "s" else ""

/-- Spans add up from one sum to another. -/
def AddsUp (sum : Sum) (list : List Span) (total : Sum) : Prop := list.foldlM Span.addTo sum = .ok total

theorem AddsUp.append {first second : List Span} {total total' : Sum} (h : AddsUp sum first total)
    (h' : AddsUp total second total') : AddsUp sum (first ++ second) total' := by
  rw [AddsUp, List.foldlM_append, show first.foldlM Span.addTo sum = _ from h]
  exact h'

theorem AddsUp.congr {list : List Span} {a' b' : Nat} (h : AddsUp sum list ⟨a, b⟩) (whole : a = a') (rest : b = b') :
    AddsUp sum list ⟨a', b'⟩ :=
  whole ▸ rest ▸ h

theorem addsUp_present {n : Nat} {total : Sum} (empty : n = 0 → total = sum) (added : Span.addTo sum ⟨n, name⟩ = .ok total) :
    AddsUp sum (present n name) total := by
  unfold present
  split
  · rename_i zero
    rw [empty zero]
    rfl
  · rw [AddsUp, List.foldlM_cons, added]
    rfl

theorem present_seconds (n : Nat) (name : String) (u : Unit) (named : Unit.ofName? name = some u)
    (grain : u.grain = .seconds k) (fits : a + n * k < bound64) (below : b < 1000000000) :
    AddsUp ⟨a, b⟩ (present n name) ⟨a + n * k, b⟩ := by
  refine addsUp_present ?_ (addTo_seconds named grain fits below)
  rintro rfl
  rw [Nat.zero_mul, Nat.add_zero]

theorem present_nanoseconds (n : Nat) (name : String) (u : Unit) (named : Unit.ofName? name = some u)
    (grain : u.grain = .nanoseconds k) (fits : a < bound64) (below : b + n * k < 1000000000) :
    AddsUp ⟨a, b⟩ (present n name) ⟨a, b + n * k⟩ := by
  refine addsUp_present ?_ (addTo_nanoseconds named grain fits below)
  rintro rfl
  rw [Nat.zero_mul, Nat.add_zero]

theorem present_inflected (n : Nat) (name : String) (u : Unit) (one : Unit.ofName? name = some u)
    (more : Unit.ofName? (name ++ "s") = some u) (grain : u.grain = .seconds k) (fits : a + n * k < bound64)
    (below : b < 1000000000) : AddsUp ⟨a, b⟩ (present n (inflected n name)) ⟨a + n * k, b⟩ := by
  refine present_seconds n _ u ?_ grain fits below
  unfold inflected
  split
  · exact more
  · rwa [String.append_empty]

end

/-- The spans of a duration, the largest unit first. -/
def spanList (d : Duration) : List Span :=
  let yearRest := d.seconds % 31557600
  let monthRest := yearRest % 2630016
  let dayRest := monthRest % 86400
  present (d.seconds / 31557600) (inflected (d.seconds / 31557600) "year") ++
    present (yearRest / 2630016) (inflected (yearRest / 2630016) "month") ++
    present (monthRest / 86400) (inflected (monthRest / 86400) "day") ++
    present (dayRest / 3600) "h" ++ present (dayRest % 3600 / 60) "m" ++ present (dayRest % 60) "s" ++
    present (d.subsecond / 1000000) "ms" ++ present (d.subsecond / 1000 % 1000) "us" ++ present (d.subsecond % 1000) "ns"

section
variable (d : Duration)

theorem parts_eq : d.parts = d.spanList.map Span.text := by
  have plurals : ∀ n name, plural n name = (present n (inflected n name)).map Span.text := by
    intro n name
    unfold plural present
    split <;> simp [Span.text, inflected, String.append_assoc]
  have counts : ∀ n name, counted n name = (present n name).map Span.text := by
    intro n name
    unfold counted present
    split <;> simp [Span.text]
  simp only [parts, spanList, plurals, counts, List.map_append]

theorem seconds_lt : d.seconds < bound64 := Nat.div_lt_of_lt_mul (Nat.mul_comm _ _ ▸ d.inRange)

theorem subsecond_lt : d.subsecond < 1000000000 := Nat.mod_lt _ (by omega)

/-- The spans of a duration add up to it. -/
theorem spanList_addsUp : AddsUp ⟨0, 0⟩ d.spanList ⟨d.seconds, d.subsecond⟩ := by
  have fits := d.seconds_lt
  have below := d.subsecond_lt
  have years : AddsUp ⟨0, 0⟩ _ _ := present_inflected (d.seconds / 31557600) "year" .year (by decide) (by decide) rfl
    (by omega) (by omega)
  have months := years.append <| present_inflected (d.seconds % 31557600 / 2630016) "month" .month (by decide) (by decide)
    rfl (by omega) (by omega)
  have days := months.append <| present_inflected (d.seconds % 31557600 % 2630016 / 86400) "day" .day (by decide)
    (by decide) rfl (by omega) (by omega)
  have hours := days.append <| present_seconds (d.seconds % 31557600 % 2630016 % 86400 / 3600) "h" .hour (by decide) rfl
    (by omega) (by omega)
  have minutes := hours.append <| present_seconds (d.seconds % 31557600 % 2630016 % 86400 % 3600 / 60) "m" .minute
    (by decide) rfl (by omega) (by omega)
  have seconds := minutes.append <| present_seconds (d.seconds % 31557600 % 2630016 % 86400 % 60) "s" .second (by decide)
    rfl (by omega) (by omega)
  have millis := seconds.append <| present_nanoseconds (d.subsecond / 1000000) "ms" .millisecond (by decide) rfl
    (by omega) (by omega)
  have micros := millis.append <| present_nanoseconds (d.subsecond / 1000 % 1000) "us" .microsecond (by decide) rfl
    (by omega) (by omega)
  have nanos := micros.append <| present_nanoseconds (d.subsecond % 1000) "ns" .nanosecond (by decide) rfl
    (by omega) (by omega)
  exact nanos.congr (by omega) (by omega)

theorem readable_present {n : Nat} {name : String} (fits : n < bound64) (nonempty : name.toList ≠ [])
    (letters : ∀ c ∈ name.toList, isUnitLetter c = true) : ∀ t ∈ present n name, t.Readable := by
  unfold present
  split
  · exact fun t none => nomatch none
  · intro t only
    obtain rfl := List.mem_singleton.mp only
    exact ⟨nonempty, letters, fits⟩

theorem readable_inflected {n m : Nat} {name : String} (fits : n < bound64) (nonempty : name.toList ≠ [])
    (letters : ∀ c ∈ name.toList, isUnitLetter c = true) : ∀ t ∈ present n (inflected m name), t.Readable := by
  refine readable_present fits ?_ ?_
  · simp [inflected, nonempty]
  · intro c spelled
    rw [inflected, String.toList_append, List.mem_append] at spelled
    rcases spelled with spelled | ending
    · exact letters c spelled
    · split at ending
      · obtain rfl := List.mem_singleton.mp ending
        rfl
      · cases ending

theorem spanList_readable : ∀ t ∈ d.spanList, t.Readable := by
  have fits := d.seconds_lt
  have below := d.subsecond_lt
  have giga := giga_lt_bound64
  simp only [spanList, List.forall_mem_append]
  refine ⟨⟨⟨⟨⟨⟨⟨⟨?_, ?_⟩, ?_⟩, ?_⟩, ?_⟩, ?_⟩, ?_⟩, ?_⟩, ?_⟩
  iterate 3 exact readable_inflected (by omega) (by decide) (List.all_eq_true.mp rfl)
  all_goals exact readable_present (by omega) (by decide) (List.all_eq_true.mp rfl)

/-! ### The text of a duration -/

theorem text_toList (s : Span) : s.text.toList = s.chars := by
  rw [Span.text, Span.chars, String.toList_append, Nat.toString_eq_ofList_toDigits, String.toList_ofList]

theorem intercalate_chars (s : Span) (list : List Span) :
    [' '].intercalate ((s :: list).map Span.chars) = s.chars ++ list.flatMap fun t => ' ' :: t.chars := by
  induction list generalizing s with
  | nil => simp
  | cons t list ih =>
    rw [List.map_cons, List.map_cons, List.intercalate_cons_cons, ← List.map_cons, ih t, List.append_assoc]
    rfl

/-- The text of a duration is a run of spans, at least one, that add up to it. -/
theorem exists_spans : ∃ s list, d.text.toList = s.chars ++ list.flatMap (fun t => ' ' :: t.chars) ∧
    (∀ t ∈ s :: list, t.Readable) ∧ AddsUp ⟨0, 0⟩ (s :: list) ⟨d.seconds, d.subsecond⟩ := by
  have sum := d.spanList_addsUp
  have readable := d.spanList_readable
  have parts := d.parts_eq
  unfold text
  split
  · rename_i zero
    have none : d.nanoseconds = 0 := beq_iff_eq.mp zero
    refine ⟨⟨0, "s"⟩, [], rfl, ?_, ?_⟩
    · intro t only
      obtain rfl := List.mem_singleton.mp only
      exact ⟨by decide, List.all_eq_true.mp rfl, by decide⟩
    · rw [seconds, subsecond, none]
      rfl
  · rename_i long
    rcases spans : d.spanList with _ | ⟨s, list⟩
    · rw [spans] at sum
      obtain ⟨whole, rest⟩ := Sum.mk.inj (Except.ok.inj sum)
      rw [seconds, subsecond] at *
      exact absurd (beq_iff_eq.mpr (by omega)) long
    · rw [spans] at sum readable parts
      refine ⟨s, list, ?_, readable, sum⟩
      rw [parts, String.toList_intercalate, List.map_map, ← intercalate_chars]
      congr 1
      exact List.map_congr_left fun t _ => text_toList t

theorem length_le_flatMap (list : List Span) : list.length ≤ (list.flatMap fun t => ' ' :: t.chars).length := by
  induction list with
  | nil => exact Nat.le_refl 0
  | cons t list ih =>
    rw [List.flatMap_cons, List.length_append, List.length_cons, List.length_cons]
    omega

theorem ofParts?_eq : ofParts? d.seconds d.subsecond = some d := by
  have whole : d.seconds * 1000000000 + d.subsecond = d.nanoseconds := Nat.div_add_mod' d.nanoseconds 1000000000
  have fits : d.seconds * 1000000000 + d.subsecond < bound64 * 1000000000 := whole ▸ d.inRange
  rw [ofParts?, dif_pos fits]
  simp only [whole]

theorem ok_bind {ε α β : Type} (a : α) (next : α → Except ε β) : (Except.ok a >>= next) = next a := rfl

/-- What a text is read as, if its spans are read. -/
theorem read_eq_ok {text : String} {c : Char} {p : Place} {total : Sum} {d : Duration} (long : text ≠ "0")
    (first : firstDigit 0 0 text.toList = .ok (some (c, p)))
    (sum : spans (text.toList.length + 1) ⟨0, 0⟩ (c.toNat - 48) p = .ok total)
    (fits : ofParts? total.seconds total.nanoseconds = some d) : Duration.read text = .ok d := by
  rw [read, if_neg long]
  show (firstDigit 0 0 text.toList >>= _) = _
  rw [first]
  show (spans (text.toList.length + 1) ⟨0, 0⟩ (c.toNat - 48) p >>= _) = _
  -- A definitional step here would have the kernel compare numbers of more than 64 bits one by one.
  rw [sum, ok_bind, fits]
  rfl

/-- A duration is read back from its text. -/
theorem read_text : Duration.read d.text = .ok d := by
  obtain ⟨s, list, spelled, readable, sum⟩ := d.exists_spans
  obtain ⟨c, cs, written, digit⟩ := Numeral.exists_toDigits s.count
  have first := firstDigit_written written 0 0 (list.flatMap fun t => ' ' :: t.chars)
  have enough : list.length < d.text.toList.length + 1 := by
    have few := length_le_flatMap list
    rw [spelled, List.length_append]
    omega
  have total := spans_written readable enough ⟨0, 0⟩ written (0 + c.utf8Size)
  have long : d.text ≠ "0" := by
    intro zero
    have name := List.length_pos_iff.mpr (readable s List.mem_cons_self).nonempty
    have digits : 0 < (Nat.toDigits 10 s.count).length := Nat.length_toDigits_pos
    have one : (s.chars ++ list.flatMap fun t => ' ' :: t.chars).length = 1 := by
      rw [← spelled, zero]
      rfl
    rw [List.length_append, Span.chars, List.length_append] at one
    omega
  rw [← spelled] at first
  exact read_eq_ok long first (total.trans sum) d.ofParts?_eq

end

end FieldClock.Duration
