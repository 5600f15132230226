import FieldClock.Proofs.Text.Numeral

/-!
# Lines

A text that is put together from lines, each ended by a break, splits into these lines again if none of them has a break of
its own.
-/

namespace FieldClock.Text

/-- A text without a break. -/
def Unbroken (s : String) : Prop := '\n' ∉ s.toList

instance : DecidablePred Unbroken := fun s => inferInstanceAs (Decidable ('\n' ∉ s.toList))

/-- The lines of a text. The last one stands behind the last break. -/
def lines (s : String) : List String := (s.toList.splitOn '\n').map String.ofList

/-- The text of lines, each ended by a break. -/
def ended : List String → String
  | [] => ""
  | line :: rest => line ++ "\n" ++ ended rest

@[simp] theorem unbroken_append {s t : String} : Unbroken (s ++ t) ↔ Unbroken s ∧ Unbroken t := by
  simp [Unbroken, not_or]

/-- Digits have no break among them. -/
theorem unbroken_of_isDigit {cs : List Char} (digits : ∀ c ∈ cs, c.isDigit = true) : '\n' ∉ cs := by
  intro broken
  cases digits _ broken

@[simp] theorem unbroken_repr (n : Nat) : Unbroken n.repr := by
  rw [Unbroken, Nat.repr_eq_ofList_toDigits, String.toList_ofList]
  exact unbroken_of_isDigit (Numeral.isDigit_toDigits n)

@[simp] theorem unbroken_signed (n : Int) : Unbroken (Numeral.signed n) := by
  unfold Numeral.signed
  split <;> simp +decide

@[simp] theorem ended_append (first rest : List String) : ended (first ++ rest) = ended first ++ ended rest := by
  induction first with
  | nil => simp [ended]
  | cons line first ih => simp [ended, ih, String.append_assoc]

/-- The lines of a text of ended lines are these, and the empty one behind the last break. -/
theorem lines_ended {written : List String} (unbroken : ∀ line ∈ written, Unbroken line) :
    lines (ended written) = written ++ [""] := by
  have whole : ∀ written, (ended written).toList = List.intercalate ['\n'] (written.map String.toList ++ [[]]) := by
    intro written
    induction written with
    | nil => rfl
    | cons line rest ih =>
      obtain ⟨second, more, behind⟩ := List.exists_cons_of_ne_nil (l := rest.map String.toList ++ [[]]) (by simp)
      simp [ended, ih, behind, List.intercalate_cons_cons]
  have apart : ∀ line ∈ written.map String.toList ++ [[]], '\n' ∉ line := by
    intro line listed
    rcases List.mem_append.mp listed with listed | last
    · obtain ⟨s, isWritten, rfl⟩ := List.mem_map.mp listed
      exact unbroken s isWritten
    · rw [List.mem_singleton.mp last]
      exact List.not_mem_nil
  rw [lines, whole, List.splitOn_intercalate _ apart (by simp)]
  simp

end FieldClock.Text
