import FieldClock.Duration.Reading
import FieldClock.Proofs.Text.Numeral

/-!
# Written spans are read

A run of spans with single blanks between them is read as these spans, in order, and nothing else.
-/

namespace FieldClock.Duration

/-- A span of time: how many of a unit, and the name of the unit. -/
structure Span where
  count : Nat
  name : String

namespace Span

/-- The text of a span. -/
def text (s : Span) : String := toString s.count ++ s.name

/-- The characters of a span. -/
def chars (s : Span) : List Char := Nat.toDigits 10 s.count ++ s.name.toList

/-- A span whose name consists of letters and whose count fits in 64 bits. -/
structure Readable (s : Span) : Prop where
  nonempty : s.name.toList ≠ []
  letters : ∀ c ∈ s.name.toList, isUnitLetter c = true
  fits : s.count < bound64

/-- Adds a span to a sum. -/
def addTo (sum : Sum) (s : Span) : Except Fault Sum := sum.addSpan s.count none s.name

end Span

/-! ### Characters -/

/-- A letter of a unit is neither a digit nor a blank. -/
theorem unitLetter_apart {c : Char} (letter : isUnitLetter c = true) : c.isDigit = false ∧ Text.isBlank c = false := by
  have code : 65 ≤ c.toNat ∧ c.toNat ≤ 90 ∨ 97 ≤ c.toNat ∧ c.toNat ≤ 122 ∨ c.toNat = 181 := by
    rcases Bool.or_eq_true_iff.mp letter with alpha | micro
    · rcases Bool.or_eq_true_iff.mp alpha with upper | lower
      · obtain ⟨low, high⟩ : 'A'.val ≤ c.val ∧ c.val ≤ 'Z'.val := of_decide_eq_true upper
        exact .inl ⟨UInt32.le_iff_toNat_le.mp low, UInt32.le_iff_toNat_le.mp high⟩
      · obtain ⟨low, high⟩ : decide ('a'.val ≤ c.val) = true ∧ decide (c.val ≤ 'z'.val) = true :=
          Bool.and_eq_true_iff.mp lower
        have low := UInt32.le_iff_toNat_le.mp (of_decide_eq_true low)
        have high := UInt32.le_iff_toNat_le.mp (of_decide_eq_true high)
        exact .inr (.inl ⟨low, high⟩)
    · rw [beq_iff_eq.mp micro]
      exact .inr (.inr rfl)
  constructor
  · have zero : '0'.toNat = 48 := rfl
    have nine : '9'.toNat = 57 := rfl
    rw [Bool.eq_false_iff, ne_eq, Char.isDigit_iff_toNat]
    omega
  · rw [Bool.eq_false_iff]
    intro blank
    simp only [Text.isBlank, Bool.or_eq_true, Bool.and_eq_true, decide_eq_true_eq, beq_iff_eq] at blank
    omega

theorem le_ofDigitChars (n : Nat) (ds : List Char) : n ≤ Nat.ofDigitChars 10 ds n := by
  induction ds generalizing n with
  | nil => exact Nat.le_refl n
  | cons d ds ih =>
    rw [Nat.ofDigitChars_cons]
    exact Nat.le_trans (by omega) (ih _)

theorem appendDigit_eq_ok {n : Nat} {d : Char} (fits : 10 * n + (d.toNat - 48) < bound64) :
    appendDigit n d = .ok (10 * n + (d.toNat - 48)) := by
  have scaled : mulChecked n 10 = .ok (10 * n) := by
    rw [mulChecked, Nat.mul_comm, if_pos (by omega)]
  rw [appendDigit, scaled]
  exact if_pos fits

/-- The digits of a number are read up to the name of its unit. -/
theorem whole_digits {ds : List Char} {c : Char} (digits : ∀ d ∈ ds, d.isDigit = true) (letter : isUnitLetter c = true)
    {n : Nat} (fits : Nat.ofDigitChars 10 ds n < bound64) (offset : Nat) (cs : List Char) :
    ∃ offset', whole n offset (ds ++ c :: cs) = .ok (Nat.ofDigitChars 10 ds n, .name ⟨offset', c :: cs⟩) := by
  induction ds generalizing n offset with
  | nil =>
    obtain ⟨digit, blank⟩ := unitLetter_apart letter
    exact ⟨offset, by simp [whole, digit, blank, letter, Nat.ofDigitChars]⟩
  | cons d ds ih =>
    obtain ⟨digit, digits⟩ := List.forall_mem_cons.mp digits
    have next := appendDigit_eq_ok (Nat.lt_of_le_of_lt (le_ofDigitChars _ ds) fits)
    obtain ⟨offset', read⟩ := ih digits fits (offset + d.utf8Size)
    refine ⟨offset', ?_⟩
    rw [List.cons_append, whole, if_pos digit, next]
    exact read

/-- The letters of a name are read whatever follows them. -/
theorem unitName_letters {name : List Char} (letters : ∀ c ∈ name, isUnitLetter c = true) (before : List Char)
    (offset : Nat) (cs : List Char) :
    ∃ offset', unitName before offset (name ++ cs) = unitName (name.reverse ++ before) offset' cs := by
  induction name generalizing before offset with
  | nil => exact ⟨offset, rfl⟩
  | cons c name ih =>
    obtain ⟨letter, letters⟩ := List.forall_mem_cons.mp letters
    obtain ⟨offset', read⟩ := ih letters (c :: before) (offset + c.utf8Size)
    refine ⟨offset', ?_⟩
    rw [List.cons_append, unitName, if_pos letter, read, List.reverse_cons, List.append_assoc]
    rfl

/-! ### Spans -/

/-- The number and the name of a span are read up to what ends the name. -/
theorem span_written {s : Span} (readable : s.Readable) {d : Char} {ds : List Char}
    (written : Nat.toDigits 10 s.count = d :: ds) (offset : Nat) (cs : List Char) :
    ∃ offset', span (d.toNat - 48) ⟨offset, ds ++ s.name.toList ++ cs⟩ =
      (unitName s.name.toList.reverse offset' cs).map fun (name, ending) => (s.count, none, name, ending) := by
  have value : Nat.ofDigitChars 10 ds (d.toNat - 48) = s.count := by
    have read := Numeral.value_toDigits s.count
    rwa [Numeral.value, written, Nat.ofDigitChars_cons, Nat.mul_zero, Nat.zero_add] at read
  have digits : ∀ c ∈ ds, c.isDigit = true := fun c present =>
    Numeral.isDigit_toDigits s.count c (written ▸ List.mem_cons_of_mem d present)
  obtain ⟨c, name, spelled⟩ := List.exists_cons_of_ne_nil readable.nonempty
  have letter := readable.letters c (spelled ▸ List.mem_cons_self)
  obtain ⟨o, number⟩ := whole_digits digits letter (value ▸ readable.fits) offset (name ++ cs)
  obtain ⟨o', named⟩ := unitName_letters readable.letters [] o cs
  refine ⟨o', ?_⟩
  rw [List.append_nil] at named
  rw [← named, span, List.append_assoc, spelled, List.cons_append, number, value]
  show (unitName [] o (c :: (name ++ cs)) >>= fun (name, ending) => pure (s.count, none, name, ending)) = _
  rcases unitName [] o (c :: (name ++ cs)) with fault | ⟨name', ending⟩ <;> rfl

theorem firstDigit_written {s : Span} {d : Char} {ds : List Char} (written : Nat.toDigits 10 s.count = d :: ds)
    (start offset : Nat) (cs : List Char) :
    firstDigit start offset (s.chars ++ cs) = .ok (some (d, ⟨offset + d.utf8Size, ds ++ s.name.toList ++ cs⟩)) := by
  have digit : d.isDigit = true := Numeral.isDigit_toDigits s.count d (written ▸ List.mem_cons_self)
  simp [Span.chars, written, firstDigit, digit]

/-- The last span is added, and that is the sum. -/
theorem spans_last {s : Span} (readable : s.Readable) (fuel : Nat) (sum : Sum) {d : Char} {ds : List Char}
    (written : Nat.toDigits 10 s.count = d :: ds) (offset : Nat) :
    spans (fuel + 1) sum (d.toNat - 48) ⟨offset, ds ++ s.name.toList ++ []⟩ = s.addTo sum := by
  obtain ⟨o, read⟩ := span_written readable written offset []
  have ended : unitName s.name.toList.reverse o [] = .ok (s.name, .finished) := by simp [unitName]
  rw [ended] at read
  rw [spans, read]
  exact bind_pure (s.addTo sum)

/-- A span with a blank and a digit behind it is added, and reading goes on behind the digit. -/
theorem spans_next {s t : Span} (readable : s.Readable) (fuel : Nat) (sum : Sum) {d c : Char} {ds cs : List Char}
    (written : Nat.toDigits 10 s.count = d :: ds) (next : Nat.toDigits 10 t.count = c :: cs) (offset : Nat)
    (behind : List Char) :
    ∃ offset', spans (fuel + 1) sum (d.toNat - 48) ⟨offset, ds ++ s.name.toList ++ ' ' :: (t.chars ++ behind)⟩ =
      (s.addTo sum >>= fun sum => spans fuel sum (c.toNat - 48) ⟨offset', cs ++ t.name.toList ++ behind⟩) := by
  obtain ⟨o, read⟩ := span_written readable written offset (' ' :: (t.chars ++ behind))
  have ended : unitName s.name.toList.reverse o (' ' :: (t.chars ++ behind)) =
      .ok (s.name, .blank ⟨o + ' '.utf8Size, t.chars ++ behind⟩) := by
    simp [unitName, isUnitLetter, Text.isBlank]
  rw [ended] at read
  have digit := firstDigit_written next (o + ' '.utf8Size) (o + ' '.utf8Size) behind
  refine ⟨o + ' '.utf8Size + c.utf8Size, ?_⟩
  rw [spans, read]
  show (s.addTo sum >>= fun sum =>
    firstDigit (o + ' '.utf8Size) (o + ' '.utf8Size) (t.chars ++ behind) >>= _) = _
  rw [digit]
  rfl

/-- Written spans are added one after the other. -/
theorem spans_written {s : Span} {list : List Span} (readable : ∀ t ∈ s :: list, t.Readable) {fuel : Nat}
    (enough : list.length < fuel) (sum : Sum) {d : Char} {ds : List Char} (written : Nat.toDigits 10 s.count = d :: ds)
    (offset : Nat) :
    spans fuel sum (d.toNat - 48) ⟨offset, ds ++ s.name.toList ++ list.flatMap fun t => ' ' :: t.chars⟩ =
      (s :: list).foldlM Span.addTo sum := by
  induction list generalizing s fuel sum d ds offset with
  | nil =>
    obtain ⟨fuel, rfl⟩ := Nat.exists_eq_succ_of_ne_zero (Nat.ne_zero_of_lt enough)
    rw [List.foldlM_cons, List.flatMap_nil, spans_last (readable s List.mem_cons_self) fuel sum written]
    exact (bind_pure _).symm
  | cons t list ih =>
    obtain ⟨fuel, rfl⟩ := Nat.exists_eq_succ_of_ne_zero (Nat.ne_zero_of_lt enough)
    obtain ⟨readable, others⟩ := List.forall_mem_cons.mp readable
    obtain ⟨c, cs, next, -⟩ := Numeral.exists_toDigits t.count
    obtain ⟨o, read⟩ := spans_next readable fuel sum written next offset (list.flatMap fun t => ' ' :: t.chars)
    rw [List.foldlM_cons, List.flatMap_cons, List.cons_append, read]
    congr
    funext sum
    exact ih others (Nat.lt_of_succ_lt_succ enough) sum next o

end FieldClock.Duration
