import FieldClock.Proofs.Json.Reading
import FieldClock.Proofs.Text.Lines

/-!
# The text of a JSON value tells the value

No two values are written alike, and none of them has a line break in its text.
-/

namespace FieldClock

/-! ### Members -/

/-- The value of the first member of a name. -/
def Members.get? (name : String) : Members → Option Json
  | .nil => none
  | .cons own value rest => if own = name then some value else rest.get? name

@[simp] theorem Members.get?_nil (name : String) : Members.nil.get? name = none := rfl

@[simp] theorem Members.get?_cons (name own : String) (value : Json) (rest : Members) :
    (Members.cons own value rest).get? name = if own = name then some value else rest.get? name := rfl

@[simp] theorem Members.get?_append (name : String) :
    ∀ members others : Members, (members.append others).get? name = (members.get? name).or (others.get? name)
  | .nil, _ => rfl
  | .cons own value rest, others => by
    simp only [append, get?, rest.get?_append name others]
    split <;> rfl

@[simp] theorem Members.get?_optional {α : Type} (name own : String) (value : α → Json) (o : Option α) :
    (Members.optional own value o).get? name = if own = name then o.map value else none := by
  cases o with
  | none => simp [optional]
  | some a => rfl

/-- The names of members, in order. -/
def Members.names : Members → List String
  | .nil => []
  | .cons name _ rest => name :: rest.names

namespace Json

/-- The names of the members of an object. -/
def names : Json → List String
  | .object members => members.names
  | _ => []

/-- The member of an object with a name. -/
def member? (name : String) : Json → Option Json
  | .object members => members.get? name
  | _ => none

@[simp] theorem member?_object (name : String) (members : Members) : (object members).member? name = members.get? name := rfl

/-! ### The text of a value -/

/-- The text of a value tells the value. -/
theorem render_injective {j k : Json} (same : j.render = k.render) : j = k := by
  have read := read?_render j
  rw [same, read?_render] at read
  exact (Option.some.inj read).symm

theorem unbroken_encodeChar (c : Char) : '\n' ∉ encodeChar c := by
  unfold encodeChar
  split
  any_goals decide
  split
  · rename_i control
    have digits : ∀ n < 0x20, '\n' ∉ ['\\', 'u', '0', '0', Nat.digitChar (n / 16), Nat.digitChar (n % 16)] := by decide
    exact digits _ control
  · simp_all [eq_comm]

theorem unbroken_textChars (s : String) : '\n' ∉ textChars s := by
  simp [textChars, unbroken_encodeChar]

theorem unbroken_numberChars (n : Int) : '\n' ∉ numberChars n := by
  have digits := Text.unbroken_of_isDigit (Numeral.isDigit_toDigits n.natAbs)
  unfold numberChars
  split <;> simp [digits]

mutual

theorem unbroken_chars : ∀ j : Json, '\n' ∉ j.chars
  | .text s => unbroken_textChars s
  | .number n => unbroken_numberChars n
  | .object members => by simp [chars, unbroken_memberChars members true]

theorem unbroken_memberChars : ∀ (members : Members) (first : Bool), '\n' ∉ memberChars first members
  | .nil, _ => List.not_mem_nil
  | .cons name j rest, first => by
    cases first <;> simp [memberChars, unbroken_textChars, unbroken_chars j, unbroken_memberChars rest]

end

end Json

end FieldClock
