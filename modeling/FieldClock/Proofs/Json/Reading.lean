import FieldClock.Json
import FieldClock.Proofs.Text.Numeral
import Mathlib.Data.List.TakeWhile

/-!
# Reading JSON

A reader for the part of JSON that reports use, with blanks wherever JSON has them and every escape that it knows. What is
written as JSON is read back, whatever stands behind it.
-/

namespace FieldClock.Json

/-- Reads something off the front of a text, and gives what stands behind it. -/
abbrev Reader (α : Type) := List Char → Option (α × List Char)

/-- Whether a character is a blank. -/
def isBlank (c : Char) : Bool := c = ' ' || c = '\t' || c = '\n' || c = '\r'

/-- Skips blanks. -/
def skipBlanks (cs : List Char) : List Char := cs.dropWhile isBlank

/-! ### Reading texts -/

/-- The character of an escape with one letter. -/
def letter? (c : Char) : Option Char :=
  if c = '"' then some '"'
  else if c = '\\' then some '\\'
  else if c = '/' then some '/'
  else if c = 'b' then some '\x08'
  else if c = 'f' then some '\x0c'
  else if c = 'n' then some '\n'
  else if c = 'r' then some '\r'
  else if c = 't' then some '\t'
  else none

/-- Reads four hexadecimal digits. -/
def unit? : Reader Nat
  | w :: x :: y :: z :: cs => (Numeral.hexNumber? [w, x, y, z]).map (·, cs)
  | _ => none

/-- The character of an escape in four digits. The first half of a pair asks for the second one in an escape behind it. -/
def numbered? (cs : List Char) : Option (Char × List Char) := do
  let (high, cs) ← unit? cs
  if high < 0xD800 ∨ 0xE000 ≤ high then return (Char.ofNat high, cs)
  else if high < 0xDC00 then
    match cs with
    | '\\' :: 'u' :: cs =>
      let (low, cs) ← unit? cs
      if 0xDC00 ≤ low ∧ low < 0xE000 then
        return (Char.ofNat (0x10000 + (high - 0xD800) * 0x400 + (low - 0xDC00)), cs)
      else none
    | _ => none
  else none

/-- Reads one character inside a text. Control characters stand there only as escapes. -/
def character? : Reader Char
  | '\\' :: 'u' :: cs => numbered? cs
  | '\\' :: c :: cs => (letter? c).map (·, cs)
  | c :: cs => if c = '"' ∨ c = '\\' ∨ c.toNat < 0x20 then none else some (c, cs)
  | [] => none

/-- Reads at most `fuel` characters up to the closing quote. -/
def characters? : (fuel : Nat) → Reader (List Char)
  | 0, _ => none
  | _ + 1, '"' :: cs => some ([], cs)
  | fuel + 1, cs => do
    let (c, cs) ← character? cs
    let (more, cs) ← characters? fuel cs
    return (c :: more, cs)

/-- Reads a text. -/
def string? : Reader String
  | '"' :: cs => (characters? cs.length cs).map fun (inside, cs) => (String.ofList inside, cs)
  | _ => none

/-! ### Reading numbers -/

/-- Reads digits, with no zero in front of others. -/
def digits? (cs : List Char) : Option (Nat × List Char) :=
  let digits := cs.takeWhile Char.isDigit
  if digits = [] ∨ digits.head? = some '0' ∧ digits ≠ ['0'] then none
  else some (Numeral.value digits, cs.dropWhile Char.isDigit)

/-- Reads a whole number. -/
def number? : Reader Int
  | '-' :: cs => (digits? cs).map fun (n, cs) => (-n, cs)
  | cs => (digits? cs).map fun (n, cs) => (n, cs)

/-! ### Reading values -/

/-- Reads a name, a colon and a value. -/
def pair? (value : Reader Json) (cs : List Char) : Option ((String × Json) × List Char) := do
  let (name, cs) ← string? (skipBlanks cs)
  match skipBlanks cs with
  | ':' :: cs =>
    let (v, cs) ← value (skipBlanks cs)
    return ((name, v), cs)
  | _ => none

/-- Reads at most `fuel` members with commas between them, and the closing brace. -/
def members? (value : Reader Json) : (fuel : Nat) → Reader Members
  | 0, _ => none
  | fuel + 1, cs => do
    let ((name, v), cs) ← pair? value cs
    match skipBlanks cs with
    | ',' :: cs =>
      let (rest, cs) ← members? value fuel cs
      return (.cons name v rest, cs)
    | '\x7d' :: cs => return (.one name v, cs)
    | _ => none

/-- Reads an object behind its opening brace. -/
def object? (value : Reader Json) (cs : List Char) : Option (Json × List Char) :=
  match skipBlanks cs with
  | '\x7d' :: cs => some (.object .nil, cs)
  | cs => (members? value cs.length cs).map fun (members, cs) => (.object members, cs)

/-- Reads a value in which objects go at most so deep. -/
def value? : (depth : Nat) → Reader Json
  | _, '"' :: cs => (string? ('"' :: cs)).map fun (s, cs) => (.text s, cs)
  | 0, '\x7b' :: _ => none
  | depth + 1, '\x7b' :: cs => object? (value? depth) cs
  | _, cs => (number? cs).map fun (n, cs) => (.number n, cs)

/-- Reads a text that is one value with blanks around it. -/
def read? (s : String) : Option Json := do
  let (value, rest) ← value? s.toList.length (skipBlanks s.toList)
  if skipBlanks rest = [] then return value else none

/-! ### Reading what is written -/

variable {cs rest : List Char}

theorem skipBlanks_cons {c : Char} (mark : isBlank c = false) (cs : List Char) : skipBlanks (c :: cs) = c :: cs := by
  simp [skipBlanks, mark]

theorem isDigit_of_isBlank {c : Char} (blank : isBlank c = true) : c.isDigit = false := by
  simp only [isBlank, Bool.or_eq_true, decide_eq_true_eq] at blank
  rcases blank with ((rfl | rfl) | rfl) | rfl <;> rfl

theorem unit?_control {n : Nat} (control : n < 0x20) (rest : List Char) :
    unit? ('0' :: '0' :: Nat.digitChar (n / 16) :: Nat.digitChar (n % 16) :: rest) = some (n, rest) := by
  have digits : ∀ n < 0x20, Numeral.hexNumber? ['0', '0', Nat.digitChar (n / 16), Nat.digitChar (n % 16)] = some n := by
    decide
  rw [unit?, digits n control]
  rfl

theorem character?_encodeChar (c : Char) (rest : List Char) : character? (encodeChar c ++ rest) = some (c, rest) := by
  unfold encodeChar
  split
  any_goals rfl
  split
  · rename_i control
    have small : c.toNat < 0xD800 := Nat.lt_trans control (by decide)
    simp [character?, numbered?, unit?_control control, small, Char.ofNat_toNat]
  · simp only [List.cons_append, List.nil_append]
    unfold character?
    split <;> simp_all

theorem characters?_succ {fuel : Nat} {c : Char} {inside behind : List Char} (first : character? cs = some (c, rest))
    (others : characters? fuel rest = some (inside, behind)) : characters? (fuel + 1) cs = some (c :: inside, behind) := by
  have unquoted : ∀ cs', cs ≠ '"' :: cs' := by
    rintro cs' rfl
    simp [character?] at first
  simp [characters?, first, others]

theorem characters?_encoded {fuel : Nat} (enough : cs.length < fuel) (rest : List Char) :
    characters? fuel (cs.flatMap encodeChar ++ '"' :: rest) = some (cs, rest) := by
  induction cs generalizing fuel with
  | nil =>
    obtain ⟨fuel, rfl⟩ := Nat.exists_eq_add_of_le' enough
    rfl
  | cons c cs ih =>
    obtain ⟨fuel, rfl⟩ := Nat.exists_eq_add_of_le' (Nat.zero_lt_of_lt enough)
    rw [List.flatMap_cons, List.append_assoc]
    exact characters?_succ (character?_encodeChar c _) (ih (Nat.lt_of_succ_lt_succ enough))

theorem length_le_encoded (cs : List Char) : cs.length ≤ (cs.flatMap encodeChar).length := by
  induction cs with
  | nil => exact Nat.le_refl 0
  | cons c cs ih =>
    have written : encodeChar c ≠ [] := by
      intro none
      have read := character?_encodeChar c []
      rw [none] at read
      cases read
    rw [List.flatMap_cons, List.length_append, List.length_cons, Nat.add_comm cs.length]
    exact Nat.add_le_add (List.length_pos_iff.mpr written) ih

theorem string?_textChars (s : String) (rest : List Char) : string? (textChars s ++ rest) = some (s, rest) := by
  have enough : s.toList.length < (s.toList.flatMap encodeChar ++ '"' :: rest).length := by
    rw [List.length_append, List.length_cons]
    exact Nat.lt_of_le_of_lt (length_le_encoded s.toList) (Nat.lt_add_of_pos_right (Nat.succ_pos _))
  simp only [textChars, List.cons_append, List.append_assoc, List.nil_append, string?, characters?_encoded enough,
    Option.map_some, String.ofList_toList]

/-! ### Reading numbers back -/

/-- No digit stands in front. -/
def NoDigit (rest : List Char) : Prop := ∀ c ∈ rest.head?, c.isDigit = false

theorem noDigit_cons {c : Char} (mark : c.isDigit = false) (cs : List Char) : NoDigit (c :: cs) := by
  rintro _ ⟨⟩
  exact mark

theorem digits?_toDigits (n : Nat) (ends : NoDigit rest) : digits? (Nat.toDigits 10 n ++ rest) = some (n, rest) := by
  have taken : rest.takeWhile Char.isDigit = [] ∧ rest.dropWhile Char.isDigit = rest := by
    cases rest with
    | nil => simp
    | cons c cs => simp [ends c rfl]
  simp only [digits?, List.takeWhile_append_of_pos (Numeral.isDigit_toDigits n),
    List.dropWhile_append_of_pos (Numeral.isDigit_toDigits n), taken, List.append_nil, Numeral.value_toDigits]
  refine if_neg ?_
  rintro (empty | ⟨zero, more⟩)
  · exact Nat.toDigits_ne_nil empty
  · obtain ⟨c, cs, written, -⟩ := Numeral.exists_toDigits n
    rw [written] at zero more
    obtain rfl : c = '0' := Option.some.inj zero
    rcases cs with _ | ⟨d, cs⟩
    · exact more rfl
    · exact Numeral.toDigits_ne_zero_cons n d cs written

theorem number?_numberChars (n : Int) (ends : NoDigit rest) : number? (numberChars n ++ rest) = some (n, rest) := by
  unfold numberChars
  split
  · rename_i negative
    have size : -(n.natAbs : Int) = n := by omega
    simp only [List.cons_append, number?, digits?_toDigits _ ends, Option.map_some, size]
  · rename_i positive
    obtain ⟨c, cs, written, digit⟩ := Numeral.exists_toDigits n.natAbs
    have unsigned : ∀ cs', Nat.toDigits 10 n.natAbs ++ rest ≠ '-' :: cs' := by
      rintro cs' signed
      rw [written] at signed
      cases signed
      cases digit
    have size : (n.natAbs : Int) = n := by omega
    simp only [number?, digits?_toDigits _ ends, Option.map_some, size]

/-! ### Reading values back -/

/-- A number begins with a sign or a digit. -/
theorem exists_numberChars (n : Int) : ∃ c cs, numberChars n = c :: cs ∧ (c = '-' ∨ c.isDigit = true) := by
  obtain ⟨c, cs, written, digit⟩ := Numeral.exists_toDigits n.natAbs
  unfold numberChars
  split
  · exact ⟨'-', _, rfl, .inl rfl⟩
  · exact ⟨c, cs, written, .inr digit⟩

theorem skipBlanks_chars (j : Json) (rest : List Char) : skipBlanks (j.chars ++ rest) = j.chars ++ rest := by
  cases j with
  | text s => exact skipBlanks_cons rfl _
  | number n =>
    obtain ⟨c, cs, written, mark⟩ := exists_numberChars n
    rw [chars, written]
    refine skipBlanks_cons ?_ _
    rcases mark with rfl | digit
    · rfl
    · refine Bool.eq_false_iff.mpr fun blank => ?_
      rw [isDigit_of_isBlank blank] at digit
      cases digit
  | object members => exact skipBlanks_cons rfl _

section
variable {value : Reader Json} {j : Json}

theorem pair?_written (read : value (j.chars ++ rest) = some (j, rest)) (name : String) :
    pair? value (textChars name ++ ':' :: (j.chars ++ rest)) = some ((name, j), rest) := by
  have front : skipBlanks (textChars name ++ ':' :: (j.chars ++ rest)) = textChars name ++ ':' :: (j.chars ++ rest) :=
    skipBlanks_cons rfl _
  have colon : skipBlanks (':' :: (j.chars ++ rest)) = ':' :: (j.chars ++ rest) := skipBlanks_cons rfl _
  simp [pair?, front, string?_textChars, colon, skipBlanks_chars, read]

theorem members?_last (read : value (j.chars ++ '\x7d' :: rest) = some (j, '\x7d' :: rest)) (fuel : Nat) (name : String) :
    members? value (fuel + 1) (textChars name ++ ':' :: (j.chars ++ '\x7d' :: rest)) = some (.cons name j .nil, rest) := by
  have brace : skipBlanks ('\x7d' :: rest) = '\x7d' :: rest := skipBlanks_cons rfl _
  simp [members?, Members.one, pair?_written read, brace]

theorem members?_more {fuel : Nat} {others : Members} (read : value (j.chars ++ ',' :: cs) = some (j, ',' :: cs))
    (more : members? value fuel cs = some (others, rest)) (name : String) :
    members? value (fuel + 1) (textChars name ++ ':' :: (j.chars ++ ',' :: cs)) = some (.cons name j others, rest) := by
  have comma : skipBlanks (',' :: cs) = ',' :: cs := skipBlanks_cons rfl _
  simp [members?, pair?_written read, comma, more]

theorem object?_quoted {members : Members} (read : members? value ('"' :: cs).length ('"' :: cs) = some (members, rest)) :
    object? value ('"' :: cs) = some (.object members, rest) := by
  rw [object?, skipBlanks_cons rfl]
  exact congrArg (Option.map _) read

end

theorem memberChars_cons (name : String) (j : Json) (members : Members) :
    memberChars true (.cons name j members) = textChars name ++ ':' :: (j.chars ++ memberChars false members) := by
  simp [memberChars]

theorem memberChars_behind (name : String) (j : Json) (members : Members) :
    memberChars false (.cons name j members) = ',' :: memberChars true (.cons name j members) := by
  simp [memberChars]

-- Depth and fuel are bounded by lengths: what stands in an object is shorter than the object.
mutual

theorem value?_chars : ∀ {j : Json} {depth : Nat} {rest : List Char}, j.chars.length ≤ depth → NoDigit rest →
    value? depth (j.chars ++ rest) = some (j, rest)
  | .text s, depth, rest, _, _ => by
    have read := string?_textChars s rest
    simp only [chars, textChars, List.cons_append] at read ⊢
    rw [value?, read]
    rfl
  | .number n, depth, rest, _, ends => by
    have read := number?_numberChars n ends
    obtain ⟨c, cs, written, mark⟩ := exists_numberChars n
    rw [written, List.cons_append] at read
    have unquoted : c ≠ '"' := by
      rintro rfl
      simp at mark
    have unbraced : c ≠ '\x7b' := by
      rintro rfl
      simp at mark
    simp only [chars, written, List.cons_append]
    unfold value?
    split <;> simp_all
  | .object .nil, depth, rest, deep, _ => by
    obtain ⟨depth, rfl⟩ := Nat.exists_eq_succ_of_ne_zero (Nat.ne_zero_of_lt deep)
    rfl
  | .object (.cons name j members), depth, rest, deep, _ => by
    obtain ⟨depth, rfl⟩ := Nat.exists_eq_succ_of_ne_zero (Nat.ne_zero_of_lt deep)
    have shorter : (memberChars true (.cons name j members)).length ≤ depth := by
      rw [chars, List.length_append, List.length_cons] at deep
      omega
    have enough : (memberChars true (.cons name j members)).length <
        (memberChars true (.cons name j members) ++ '\x7d' :: rest).length := by
      rw [List.length_append, List.length_cons]
      omega
    have whole : (object (.cons name j members)).chars ++ rest =
        '\x7b' :: (memberChars true (.cons name j members) ++ '\x7d' :: rest) := by
      simp [chars]
    rw [whole, value?]
    exact object?_quoted (members?_chars Members.noConfusion shorter enough)

theorem members?_chars : ∀ {members : Members} {depth fuel : Nat} {rest : List Char}, members ≠ .nil →
    (memberChars true members).length ≤ depth → (memberChars true members).length < fuel →
    members? (value? depth) fuel (memberChars true members ++ '\x7d' :: rest) = some (members, rest)
  | .nil, _, _, _, any, _, _ => absurd rfl any
  | .cons name j .nil, depth, fuel, rest, _, deep, enough => by
    obtain ⟨fuel, rfl⟩ := Nat.exists_eq_succ_of_ne_zero (Nat.ne_zero_of_lt enough)
    simp only [memberChars_cons, List.length_append, List.length_cons] at deep
    have inside : j.chars.length ≤ depth := by omega
    simpa [memberChars] using members?_last (value?_chars inside (noDigit_cons rfl rest)) fuel name
  | .cons name j (.cons other k others), depth, fuel, rest, _, deep, enough => by
    obtain ⟨fuel, rfl⟩ := Nat.exists_eq_succ_of_ne_zero (Nat.ne_zero_of_lt enough)
    rw [memberChars_cons, memberChars_behind] at *
    simp only [List.length_append, List.length_cons] at deep enough
    have inside : j.chars.length ≤ depth := by omega
    have behind : (memberChars true (.cons other k others)).length ≤ depth := by omega
    have more : members? (value? depth) fuel (memberChars true (.cons other k others) ++ '\x7d' :: rest) =
        some (.cons other k others, rest) := members?_chars Members.noConfusion behind (by omega)
    simpa using members?_more (value?_chars inside (noDigit_cons rfl _)) more name

end

/-- What is written is read back, with blanks behind it or without. -/
theorem read?_render_append (j : Json) {s : String} (blank : ∀ c ∈ s.toList, isBlank c = true) :
    read? (j.render ++ s) = some j := by
  have ends : NoDigit s.toList := fun c first => isDigit_of_isBlank (blank c (List.mem_of_mem_head? first))
  have deep : j.chars.length ≤ j.chars.length + s.toList.length := Nat.le_add_right _ _
  have behind : skipBlanks s.toList = [] := List.dropWhile_eq_nil_iff.mpr blank
  simp [read?, render, skipBlanks_chars, value?_chars deep ends, behind]

theorem read?_render (j : Json) : read? j.render = some j := by
  rw [← String.append_empty (s := j.render)]
  exact read?_render_append j (by simp)

example : read? "\x7b \"\\u0041\\ud83d\\ude00\" : -12,\n\"\":\x7b\x7d \x7d" =
    some (.object (.cons "A😀" (.number (-12)) (.one "" (.object .nil)))) := by rfl

end FieldClock.Json
