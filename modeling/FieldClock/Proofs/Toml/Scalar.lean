import FieldClock.Proofs.Text.Numeral
import FieldClock.Toml.Scalar

/-!
# Written numbers and truth values are read back

A run of digits is neither a date nor a time, and without a zero in front it is the number that it writes.
-/

namespace FieldClock.Toml.Scalar

variable {cs rest : List Char}

/-! ### Dates and times have marks -/

theorem dash_of_isDate (date : isDate cs = true) : '-' ∈ cs := by
  unfold isDate at date
  split at date
  · simp
  · cases date

theorem colon_of_hourAndMinute? (time : hourAndMinute? cs = some rest) : ':' ∈ cs := by
  unfold hourAndMinute? at time
  split at time
  · simp
  · cases time

theorem colon_of_isTime (time : isTime cs = true) : ':' ∈ cs := by
  unfold isTime at time
  rcases clock : hourAndMinute? cs with _ | rest
  · rw [time?, clock] at time
    cases time
  · exact colon_of_hourAndMinute? clock

theorem dash_of_isDateTime (moment : isDateTime cs = true) : '-' ∈ cs := by
  unfold isDateTime at moment
  exact List.mem_of_mem_take (dash_of_isDate (Bool.and_eq_true_iff.mp moment).1)

/-! ### Digits -/

theorem digits?_eq_some (nonempty : cs ≠ []) (digits : ∀ c ∈ cs, c.isDigit = true) :
    digits? Char.isDigit cs = some cs := by
  induction cs with
  | nil => exact absurd rfl nonempty
  | cons c cs ih =>
    obtain ⟨digit, digits⟩ := List.forall_mem_cons.mp digits
    rcases cs with _ | ⟨d, cs⟩
    · simp [digits?, digit]
    have mark : d ≠ '_' := by
      rintro rfl
      cases digits '_' List.mem_cons_self
    have read := ih (List.cons_ne_nil d cs) digits
    simp [digits?, digit, mark, read]

theorem plainDigits?_toDigits (n : Nat) : plainDigits? (Nat.toDigits 10 n) = some (Nat.toDigits 10 n) := by
  have digits := digits?_eq_some Nat.toDigits_ne_nil (Numeral.isDigit_toDigits n)
  unfold plainDigits?
  split
  · rename_i zero
    exact absurd zero (Numeral.toDigits_ne_zero_cons n _ _)
  · exact digits

theorem takeSign_toDigits (n : Nat) : takeSign (Nat.toDigits 10 n) = (false, Nat.toDigits 10 n) := by
  unfold takeSign
  split
  · rename_i plus
    exact absurd (plus ▸ List.mem_cons_self) (Numeral.not_mem_toDigits (c := '+') rfl n)
  · rename_i minus
    exact absurd (minus ▸ List.mem_cons_self) (Numeral.not_mem_toDigits (c := '-') rfl n)
  · rfl

theorem integer?_toDigits {n : Nat} (fits : n ≤ 9223372036854775807) : integer? (Nat.toDigits 10 n) = some (n : Int) := by
  have letter {c : Char} (other : c.isDigit = false) (cs : List Char) : Nat.toDigits 10 n ≠ '0' :: c :: cs := by
    intro based
    exact Numeral.not_mem_toDigits other n (based ▸ List.mem_cons_of_mem _ List.mem_cons_self)
  unfold integer?
  split
  · rename_i based
    exact absurd based (letter rfl _)
  · rename_i based
    exact absurd based (letter rfl _)
  · rename_i based
    exact absurd based (letter rfl _)
  · have low : -9223372036854775808 ≤ (n : Int) := by omega
    have high : (n : Int) ≤ 9223372036854775807 := by omega
    rw [takeSign_toDigits]
    simp only [plainDigits?_toDigits, Option.bind_eq_bind, Option.bind_some, Numeral.value_toDigits, Bool.false_eq_true,
      if_false]
    exact if_pos ⟨low, high⟩

/-! ### Words -/

theorem word?_toDigits {n : Nat} (fits : n ≤ 9223372036854775807) : word? (Nat.toDigits 10 n) = some (.integer n) := by
  have dash := Numeral.not_mem_toDigits (c := '-') rfl n
  have colon := Numeral.not_mem_toDigits (c := ':') rfl n
  have moment : (isDate (Nat.toDigits 10 n) || isTime (Nat.toDigits 10 n) || isDateTime (Nat.toDigits 10 n)) = false := by
    rw [Bool.or_eq_false_iff, Bool.or_eq_false_iff]
    refine ⟨⟨?_, ?_⟩, ?_⟩ <;> rw [Bool.eq_false_iff]
    · exact fun date => dash (dash_of_isDate date)
    · exact fun time => colon (colon_of_isTime time)
    · exact fun both => dash (dash_of_isDateTime both)
  have yes : Nat.toDigits 10 n ≠ ['t', 'r', 'u', 'e'] := by
    intro same
    exact Numeral.not_mem_toDigits (c := 't') rfl n (same ▸ List.mem_cons_self)
  have no : Nat.toDigits 10 n ≠ ['f', 'a', 'l', 's', 'e'] := by
    intro same
    exact Numeral.not_mem_toDigits (c := 'f') rfl n (same ▸ List.mem_cons_self)
  rw [word?, if_neg yes, if_neg no, if_neg (Bool.eq_false_iff.mp moment), integer?_toDigits fits]

/-- A word is read as a whole up to the end of its line. -/
theorem read?_word {word : List Char} (letters : ∀ c ∈ word, isWordChar c = true) (rest : List Char) :
    read? (word ++ '\n' :: rest) = (word? word).map (·, '\n' :: rest) := by
  have taken : (word ++ '\n' :: rest).takeWhile isWordChar = word := by
    rw [List.takeWhile_append_of_pos letters]
    simp [isWordChar]
  have left : (word ++ '\n' :: rest).dropWhile isWordChar = '\n' :: rest := by
    rw [List.dropWhile_append_of_pos letters]
    simp [isWordChar]
  rw [read?, taken, left]
  cases isDate word <;> rfl

end FieldClock.Toml.Scalar
