import FieldClock.Text.Numeral
import Mathlib.Algebra.Group.Nat.Defs

/-!
# Written numbers

The decimal digits of a number write it back, and have no zero in front unless they are padded. So do the hexadecimal ones of
a number that is not too large for them.
-/

namespace FieldClock.Numeral

/-! ### Decimal digits -/

theorem value_toDigits (n : Nat) : value (Nat.toDigits 10 n) = n :=
  Nat.ofDigitChars_toDigits (by omega) (by omega)

theorem isDigit_toDigits (n : Nat) : ∀ c ∈ Nat.toDigits 10 n, c.isDigit = true :=
  fun _ written => Nat.isDigit_of_mem_toDigits (by omega) (by omega) written

theorem not_mem_toDigits {c : Char} (other : c.isDigit = false) (n : Nat) : c ∉ Nat.toDigits 10 n := by
  intro present
  rw [isDigit_toDigits n c present] at other
  cases other

theorem toDigits_inj {m n : Nat} (same : Nat.toDigits 10 m = Nat.toDigits 10 n) : m = n := by
  rw [← value_toDigits m, same, value_toDigits]

theorem toList_toString (n : Nat) : (toString n).toList = Nat.toDigits 10 n := by
  rw [Nat.toString_eq_repr, Nat.repr_eq_ofList_toDigits, String.toList_ofList]

theorem digitChar_ne_zero : ∀ n < 10, 0 < n → n.digitChar ≠ '0' := by decide

theorem head?_toDigits_ne_zero {n : Nat} (positive : 0 < n) : (Nat.toDigits 10 n).head? ≠ some '0' := by
  induction n using Nat.strongRecOn with
  | ind n ih =>
    rcases Nat.lt_or_ge n 10 with digit | more
    · rw [Nat.toDigits_of_lt_base digit, List.head?_cons, ne_eq, Option.some.injEq]
      exact digitChar_ne_zero n digit positive
    · have above := ih (n / 10) (by omega) (by omega)
      obtain ⟨c, cs, written⟩ := List.exists_cons_of_ne_nil (Nat.toDigits_ne_nil (n := n / 10) (b := 10))
      rw [Nat.toDigits_of_base_le (by omega) more]
      rw [written] at above ⊢
      exact above

/-- A number with more than one digit has no zero in front. -/
theorem toDigits_ne_zero_cons (n : Nat) (c : Char) (cs : List Char) : Nat.toDigits 10 n ≠ '0' :: c :: cs := by
  intro zero
  rcases Nat.eq_zero_or_pos n with rfl | positive
  · cases zero
  · exact head?_toDigits_ne_zero positive (congrArg List.head? zero)

/-- The digits of a number begin with one of them. -/
theorem exists_toDigits (n : Nat) : ∃ c cs, Nat.toDigits 10 n = c :: cs ∧ c.isDigit = true := by
  obtain ⟨c, cs, written⟩ := List.exists_cons_of_ne_nil (Nat.toDigits_ne_nil (n := n) (b := 10))
  exact ⟨c, cs, written, isDigit_toDigits n c (written ▸ List.mem_cons_self)⟩

/-! ### Padded numbers -/

theorem value_padded (width n : Nat) : value (padded width n) = n := by
  rw [value, padded, List.leftpad, Nat.ofDigitChars_append, Nat.ofDigitChars_replicate_zero]
  exact value_toDigits n

theorem padded_inj {width m n : Nat} (same : padded width m = padded width n) : m = n := by
  rw [← value_padded width m, same, value_padded]

theorem length_padded {width n : Nat} (wide : 0 < width) (small : n < 10 ^ width) : (padded width n).length = width := by
  have short : (Nat.toDigits 10 n).length ≤ width := (Nat.length_toDigits_le_iff (by omega) wide).mpr small
  rw [padded, List.length_leftpad]
  exact Nat.max_eq_left short

theorem isDigit_padded (width n : Nat) : ∀ c ∈ padded width n, c.isDigit = true := by
  intro c written
  rcases List.mem_append.mp written with zero | digit
  · rw [List.eq_of_mem_replicate zero]
    rfl
  · exact isDigit_toDigits n c digit

/-! ### Hexadecimal digits -/

theorem hexValue?_toUpper_digitChar : ∀ d < 16, hexValue? d.digitChar.toUpper = some d := by decide

theorem hexUpper_succ (width n : Nat) :
    hexUpper (width + 1) n = hexUpper width (n / 16) ++ [(n % 16).digitChar.toUpper] := by
  simp [hexUpper, hexLower]

theorem hexNumber?_append_digit {cs : List Char} {n d : Nat} (read : hexNumber? cs = some n) (digit : d < 16) :
    hexNumber? (cs ++ [d.digitChar.toUpper]) = some (n * 16 + d) := by
  unfold hexNumber? at read ⊢
  simp [List.foldl_append, read, hexValue?_toUpper_digitChar d digit]

theorem hexNumber?_hexUpper {width n : Nat} (small : n < 16 ^ width) : hexNumber? (hexUpper width n) = some n := by
  induction width generalizing n with
  | zero =>
    obtain rfl : n = 0 := by omega
    rfl
  | succ width ih =>
    have small : n / 16 < 16 ^ width := by
      rw [Nat.pow_succ] at small
      omega
    rw [hexUpper_succ, hexNumber?_append_digit (ih small) (Nat.mod_lt n (by omega)), Nat.div_add_mod']

end FieldClock.Numeral
