import FieldClock.Proofs.Target.Grammar
import FieldClock.Proofs.Text.Numeral

/-!
# Numbers are written in decimal digits

The digits of a number spell it, also behind zeros that pad them. Numbers of one width are ordered as texts as they are as
numbers.
-/

namespace FieldClock.Numeral

variable {cs : List Char} {n : Nat}

theorem decimal_of_value (nonempty : cs ≠ []) (digits : ∀ c ∈ cs, c.isDigit = true) (number : value cs = n) :
    Decimal cs n := by
  refine decimal_iff.mpr ⟨?_, number⟩
  rw [isDigits, Bool.and_eq_true, List.all_eq_true]
  exact ⟨by simpa using nonempty, digits⟩

theorem decimal_toDigits (n : Nat) : Decimal (Nat.toDigits 10 n) n :=
  decimal_of_value Nat.toDigits_ne_nil (isDigit_toDigits n) (value_toDigits n)

theorem padded_ne_nil (width n : Nat) : padded width n ≠ [] := by
  intro none
  exact Nat.toDigits_ne_nil (List.append_eq_nil_iff.mp none).2

theorem decimal_padded (width n : Nat) : Decimal (padded width n) n :=
  decimal_of_value (padded_ne_nil width n) (isDigit_padded width n) (value_padded width n)

/-! ### Order -/

/-- Texts that begin equally long are ordered by their beginnings first. -/
theorem append_lt_append_iff {cs ds rest rest' : List Char} (long : cs.length = ds.length) :
    cs ++ rest < ds ++ rest' ↔ cs < ds ∨ cs = ds ∧ rest < rest' := by
  induction cs generalizing ds with
  | nil =>
    obtain rfl := List.length_eq_zero_iff.mp long.symm
    simp
  | cons c cs ih =>
    obtain ⟨d, ds, rfl⟩ := List.exists_cons_of_length_eq_add_one long.symm
    rw [List.cons_append, List.cons_append, List.cons_lt_cons_iff, List.cons_lt_cons_iff, ih (Nat.succ.inj long)]
    simp only [List.cons.injEq]
    grind

theorem padded_of_lt_ten {n : Nat} (digit : n < 10) (width : Nat) :
    padded (width + 1) n = List.replicate width '0' ++ [n.digitChar] := by
  simp [padded, Nat.toDigits_of_lt_base digit, List.leftpad]

theorem padded_succ {width : Nat} (wide : 0 < width) (n : Nat) :
    padded (width + 1) n = padded width (n / 10) ++ [(n % 10).digitChar] := by
  rcases Nat.lt_or_ge n 10 with digit | more
  · obtain ⟨width, rfl⟩ := Nat.exists_eq_add_of_le' wide
    have zero : (0).digitChar = '0' := rfl
    rw [padded_of_lt_ten digit, Nat.div_eq_of_lt digit, Nat.mod_eq_of_lt digit, padded_of_lt_ten (by decide), zero,
      ← List.replicate_succ']
  · rw [padded, padded, Nat.toDigits_of_base_le (by decide) more, List.leftpad, List.leftpad, List.length_append,
      List.length_singleton, Nat.add_sub_add_right, List.append_assoc]

theorem digitChar_lt_iff : ∀ m < 10, ∀ n < 10, m.digitChar < n.digitChar ↔ m < n := by decide

/-- Numbers of one width are ordered as texts as they are as numbers. -/
theorem padded_lt_iff {width m n : Nat} (wide : 0 < width) (small : m < 10 ^ width) (small' : n < 10 ^ width) :
    padded width m < padded width n ↔ m < n := by
  obtain ⟨width, rfl⟩ := Nat.exists_eq_add_of_le' wide
  -- The digits before the last one are those of the tenth part, and count first.
  induction width generalizing m n with
  | zero =>
    rw [padded_of_lt_ten small, padded_of_lt_ten small']
    simp [List.cons_lt_cons_iff, digitChar_lt_iff m small n small']
  | succ width ih =>
    have wide : 0 < width + 1 := Nat.succ_pos width
    have tenth : ∀ k, k < 10 ^ (width + 2) → k / 10 < 10 ^ (width + 1) := fun k small =>
      Nat.div_lt_of_lt_mul (by rwa [Nat.pow_succ'] at small)
    have small₁ := tenth m small
    have small₂ := tenth n small'
    have long : (padded (width + 1) (m / 10)).length = (padded (width + 1) (n / 10)).length := by
      rw [length_padded wide small₁, length_padded wide small₂]
    have last := digitChar_lt_iff (m % 10) (by omega) (n % 10) (by omega)
    have front : padded (width + 1) (m / 10) = padded (width + 1) (n / 10) ↔ m / 10 = n / 10 :=
      ⟨padded_inj, fun same => by rw [same]⟩
    rw [padded_succ wide, padded_succ wide, append_lt_append_iff long, ih wide small₁ small₂, front]
    simp only [List.cons_lt_cons_iff, last]
    simp
    omega

end FieldClock.Numeral
