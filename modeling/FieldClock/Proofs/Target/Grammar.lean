import FieldClock.Target.Reading
import Mathlib.Data.List.Induction

/-!
# The grammar of targets

Which texts are targets, told without the reader: the spelling of a number, of a host with its port, and of a target with or
without its unit. The reader takes exactly these texts and refuses all others.
-/

namespace FieldClock

/-! ### Spelled numbers -/

namespace Numeral

/-- Decimal digits and the number that they write. -/
inductive Decimal : List Char → Nat → Prop
  | one {c : Char} (digit : c.isDigit = true) : Decimal [c] (c.toNat - '0'.toNat)
  | more {cs : List Char} {n : Nat} {c : Char} (before : Decimal cs n) (digit : c.isDigit = true) :
      Decimal (cs ++ [c]) (10 * n + (c.toNat - '0'.toNat))

/-- A numeral and its number: decimal digits, with or without a plus sign before them. -/
inductive Spells : List Char → Nat → Prop
  | plain {cs : List Char} {n : Nat} (digits : Decimal cs n) : Spells cs n
  | plus {cs : List Char} {n : Nat} (digits : Decimal cs n) : Spells ('+' :: cs) n

theorem value_append_digit (cs : List Char) (c : Char) : value (cs ++ [c]) = 10 * value cs + (c.toNat - '0'.toNat) := by
  rw [value, Nat.ofDigitChars_append, Nat.ofDigitChars_cons, Nat.ofDigitChars_nil, value]

theorem isDigits_append_digit {cs : List Char} {c : Char} (digits : isDigits cs = true) (digit : c.isDigit = true) :
    isDigits (cs ++ [c]) = true := by
  simp only [isDigits, Bool.and_eq_true, List.all_append, List.all_cons, List.all_nil, digit] at digits ⊢
  simp [digits.2]

theorem decimal_iff {cs : List Char} {n : Nat} : Decimal cs n ↔ isDigits cs = true ∧ value cs = n := by
  constructor
  · intro written
    induction written with
    | one digit => simp [isDigits, digit, value, Nat.ofDigitChars_cons]
    | more before digit ih =>
      obtain ⟨digits, rfl⟩ := ih
      exact ⟨isDigits_append_digit digits digit, value_append_digit _ _⟩
  · rintro ⟨digits, rfl⟩
    -- The number of digits grows with the last one, as the grammar does.
    induction cs using List.reverseRecOn with
    | nil => cases digits
    | append_singleton cs c ih =>
      obtain ⟨-, all⟩ := Bool.and_eq_true_iff.mp digits
      rw [List.all_append, Bool.and_eq_true] at all
      have digit : c.isDigit = true := by simpa using all.2
      rw [value_append_digit]
      rcases cs with _ | ⟨d, cs⟩
      · simpa [value] using Decimal.one digit
      · exact .more (ih (by simpa [isDigits] using all.1)) digit

theorem dropPlus_of_isDigits {cs : List Char} (digits : isDigits cs = true) : dropPlus cs = cs := by
  unfold dropPlus
  split
  · cases digits
  · rfl

theorem spells_iff {cs : List Char} {n : Nat} : Spells cs n ↔ Decimal (dropPlus cs) n := by
  constructor
  · rintro (digits | digits)
    · rwa [dropPlus_of_isDigits (decimal_iff.mp digits).1]
    · exact digits
  · intro digits
    unfold dropPlus at digits
    split at digits
    · exact .plus digits
    · exact .plain digits

/-- A bounded numeral is read as its number just if that is in bounds. -/
theorem readUpTo_eq_some_iff {bound n : Nat} {cs : List Char} : readUpTo bound cs = some n ↔ Spells cs n ∧ n ≤ bound := by
  rw [spells_iff, decimal_iff]
  simp only [readUpTo, Option.ite_none_right_eq_some, Bool.and_eq_true, decide_eq_true_eq, Option.some.injEq]
  constructor
  · rintro ⟨⟨digits, small⟩, rfl⟩
    exact ⟨⟨digits, rfl⟩, small⟩
  · rintro ⟨⟨digits, rfl⟩, small⟩
    exact ⟨⟨digits, small⟩, rfl⟩

end Numeral

namespace Target

/-! ### Splitting -/

section
variable {sep : Char} {cs before behind : List Char}

theorem splitFirst?_append (absent : sep ∉ before) : splitFirst? sep (before ++ sep :: behind) = some (before, behind) := by
  induction before with
  | nil => simp [splitFirst?]
  | cons b before ih =>
    obtain ⟨other, absent⟩ : sep ≠ b ∧ sep ∉ before := by simpa using absent
    simp [splitFirst?, other.symm, ih absent]

theorem splitFirst?_eq_some_iff : splitFirst? sep cs = some (before, behind) ↔ cs = before ++ sep :: behind ∧ sep ∉ before := by
  constructor
  · intro split
    induction cs generalizing before with
    | nil => simp [splitFirst?] at split
    | cons c cs ih =>
      rw [splitFirst?] at split
      rcases eq_or_ne c sep with rfl | other
      · simp only [if_true, Option.some.injEq, Prod.mk.injEq] at split
        obtain ⟨rfl, rfl⟩ := split
        simp
      · simp only [other, if_false, Option.map_eq_some_iff, Prod.exists, Prod.mk.injEq] at split
        obtain ⟨before', behind', later, rfl, rfl⟩ := split
        obtain ⟨rfl, absent⟩ := ih later
        exact ⟨rfl, by simp [other.symm, absent]⟩
  · rintro ⟨rfl, absent⟩
    exact splitFirst?_append absent

theorem splitLast?_eq_none_iff : splitLast? sep cs = none ↔ sep ∉ cs := by
  induction cs with
  | nil => simp [splitLast?]
  | cons c cs ih =>
    rw [splitLast?]
    rcases later : splitLast? sep cs with _ | ⟨before, behind⟩
    · have absent := ih.mp later
      rcases eq_or_ne c sep with rfl | other
      · simp
      · simp [other, other.symm, absent]
    · have present : sep ∈ cs := Decidable.byContradiction fun absent => by simp [ih.mpr absent] at later
      simp [present]

theorem splitLast?_append (absent : sep ∉ behind) : splitLast? sep (before ++ sep :: behind) = some (before, behind) := by
  induction before with
  | nil => simp [splitLast?, splitLast?_eq_none_iff.mpr absent]
  | cons b before ih => simp [splitLast?, ih]

theorem splitLast?_eq_some_iff : splitLast? sep cs = some (before, behind) ↔ cs = before ++ sep :: behind ∧ sep ∉ behind := by
  constructor
  · intro split
    induction cs generalizing before with
    | nil => simp [splitLast?] at split
    | cons c cs ih =>
      rw [splitLast?] at split
      rcases later : splitLast? sep cs with _ | ⟨before', behind'⟩
      · simp only [later, Option.ite_none_right_eq_some, Option.some.injEq, Prod.mk.injEq] at split
        obtain ⟨rfl, rfl, rfl⟩ := split
        exact ⟨rfl, splitLast?_eq_none_iff.mp later⟩
      · simp only [later, Option.some.injEq, Prod.mk.injEq] at split
        obtain ⟨rfl, rfl⟩ := split
        obtain ⟨rfl, absent⟩ := ih later
        exact ⟨rfl, absent⟩
  · rintro ⟨rfl, absent⟩
    exact splitLast?_append absent

end

/-! ### Spelled targets -/

/-- A host and its port, and a text for them. A bracket opens only a host that it encloses. -/
inductive SpellsEndpoint : List Char → List Char → UInt16 → Prop
  | bracketed {host : List Char} (closed : ']' ∉ host) : SpellsEndpoint ('[' :: host ++ [']']) host 502
  | bracketedWithPort {host numeral : List Char} {port : UInt16} (closed : ']' ∉ host)
      (spelled : Numeral.Spells numeral port.toNat) : SpellsEndpoint ('[' :: host ++ ']' :: ':' :: numeral) host port
  | colons {host : List Char} (bare : host.head? ≠ some '[') (several : 2 ≤ host.count ':') : SpellsEndpoint host host 502
  | withPort {host numeral : List Char} {port : UInt16} (bare : (host ++ ':' :: numeral).head? ≠ some '[')
      (single : (host ++ ':' :: numeral).count ':' = 1) (spelled : Numeral.Spells numeral port.toNat) :
      SpellsEndpoint (host ++ ':' :: numeral) host port
  | plain {host : List Char} (bare : host.head? ≠ some '[') (none : ':' ∉ host) : SpellsEndpoint host host 502

/-- A text for a target: a host with its port and, behind the last slash if there is one, its unit. -/
inductive Spells : List Char → Target → Prop
  | withoutUnit {endpoint host : List Char} {port : UInt16} (none : '/' ∉ endpoint)
      (spelled : SpellsEndpoint endpoint host port) (named : host ≠ []) : Spells endpoint ⟨String.ofList host, port, 1⟩
  | withUnit {endpoint host numeral : List Char} {port : UInt16} {unitId : UInt8} (last : '/' ∉ numeral)
      (spelledUnit : Numeral.Spells numeral unitId.toNat) (spelled : SpellsEndpoint endpoint host port) (named : host ≠ []) :
      Spells (endpoint ++ '/' :: numeral) ⟨String.ofList host, port, unitId⟩

section
variable {cs host : List Char} {port : UInt16} {unitId : UInt8}

theorem readPort_eq_ok_iff : readPort cs = .ok port ↔ Numeral.Spells cs port.toNat := by
  have iff (n : Nat) := @Numeral.readUpTo_eq_some_iff 65535 n cs
  unfold readPort
  constructor
  · intro read
    split at read
    · rename_i n found
      obtain ⟨spelled, small⟩ := (iff n).mp found
      obtain rfl := Except.ok.inj read
      rwa [UInt16.toNat_ofNat_of_lt' (Nat.lt_succ_of_le small)]
    · cases read
  · intro spelled
    rw [(iff _).mpr ⟨spelled, Nat.le_of_lt_succ port.toNat_lt⟩]
    simp

theorem readUnit_eq_ok_iff : readUnit cs = .ok unitId ↔ Numeral.Spells cs unitId.toNat := by
  have iff (n : Nat) := @Numeral.readUpTo_eq_some_iff 255 n cs
  unfold readUnit
  constructor
  · intro read
    split at read
    · rename_i n found
      obtain ⟨spelled, small⟩ := (iff n).mp found
      obtain rfl := Except.ok.inj read
      rwa [UInt8.toNat_ofNat_of_lt' (Nat.lt_succ_of_le small)]
    · cases read
  · intro spelled
    rw [(iff _).mpr ⟨spelled, Nat.le_of_lt_succ unitId.toNat_lt⟩]
    simp

theorem readBehindBracket_eq_ok_iff :
    readBehindBracket cs = .ok port ↔
      cs = [] ∧ port = 502 ∨ ∃ numeral, cs = ':' :: numeral ∧ Numeral.Spells numeral port.toNat := by
  unfold readBehindBracket
  split
  · simp [defaultPort, eq_comm]
  · simp [readPort_eq_ok_iff]
  · rename_i other
    simp only [reduceCtorEq, false_iff, not_or, not_and, not_exists]
    exact ⟨fun empty => absurd empty ‹_›, fun numeral colon => absurd colon (other numeral)⟩

theorem map_eq_ok_iff {ε α β : Type} {x : Except ε α} {f : α → β} {b : β} : x.map f = .ok b ↔ ∃ a, x = .ok a ∧ f a = b := by
  rcases x with e | a <;> simp [Except.map]

theorem readEndpoint_bare (bare : cs.head? ≠ some '[') :
    readEndpoint cs =
      if cs.count ':' > 1 then .ok (cs, defaultPort)
      else
        match splitLast? ':' cs with
        | some (host, port) => (readPort port).map (host, ·)
        | none => .ok (cs, defaultPort) := by
  rcases cs with _ | ⟨c, cs⟩
  · rfl
  · have other : c ≠ '[' := by simpa using bare
    unfold readEndpoint
    split
    · rename_i bracket
      exact absurd (List.cons.inj bracket).1 other
    · rfl

/-- A text is read as a host with its port just if it is spelled so. -/
theorem readEndpoint_eq_ok_iff : readEndpoint cs = .ok (host, port) ↔ SpellsEndpoint cs host port := by
  constructor
  · intro read
    by_cases bare : cs.head? ≠ some '['
    · rw [readEndpoint_bare bare] at read
      split at read
      · rename_i several
        cases read
        exact .colons bare several
      · rename_i few
        split at read
        · rename_i before numeral found
          obtain ⟨rfl, absent⟩ := splitLast?_eq_some_iff.mp found
          obtain ⟨port', read, same⟩ := map_eq_ok_iff.mp read
          cases same
          exact .withPort bare (by simp at few ⊢; omega) (readPort_eq_ok_iff.mp read)
        · rename_i found
          cases read
          exact .plain bare (splitLast?_eq_none_iff.mp found)
    · obtain ⟨cs, rfl⟩ := List.head?_eq_some_iff.mp (Decidable.of_not_not bare)
      rw [readEndpoint] at read
      split at read
      · cases read
      · rename_i before behind found
        obtain ⟨rfl, closed⟩ := splitFirst?_eq_some_iff.mp found
        obtain ⟨port', read, same⟩ := map_eq_ok_iff.mp read
        cases same
        rcases readBehindBracket_eq_ok_iff.mp read with ⟨rfl, rfl⟩ | ⟨numeral, rfl, spelled⟩
        · exact .bracketed closed
        · exact .bracketedWithPort closed spelled
  · intro spelled
    cases spelled with
    | bracketed closed =>
      rw [List.cons_append, readEndpoint, splitFirst?_append closed]
      rfl
    | bracketedWithPort closed spelled =>
      rw [List.cons_append, readEndpoint, splitFirst?_append closed]
      exact map_eq_ok_iff.mpr ⟨_, readBehindBracket_eq_ok_iff.mpr (.inr ⟨_, rfl, spelled⟩), rfl⟩
    | colons bare several =>
      rw [readEndpoint_bare bare, if_pos (Nat.lt_of_succ_le several)]
      rfl
    | @withPort host numeral port bare single spelled =>
      have absent : ':' ∉ numeral := by
        simp only [List.count_append, List.count_cons_self] at single
        exact List.count_eq_zero.mp (by omega)
      rw [readEndpoint_bare bare, if_neg (by omega), splitLast?_append absent]
      exact map_eq_ok_iff.mpr ⟨_, readPort_eq_ok_iff.mpr spelled, rfl⟩
    | plain bare none =>
      rw [readEndpoint_bare bare, if_neg (by simp [List.count_eq_zero.mpr none]), splitLast?_eq_none_iff.mpr none]
      rfl

theorem bind_eq_ok_iff {ε α β : Type} {x : Except ε α} {f : α → Except ε β} {b : β} :
    (x >>= f) = .ok b ↔ ∃ a, x = .ok a ∧ f a = .ok b := by
  rcases x with e | a <;> simp [bind, Except.bind]

/-- Reads the host with its port of a target with this unit. -/
def readNamed (endpoint : List Char) (unitId : UInt8) : Except Reason Target := do
  let (host, port) ← readEndpoint endpoint
  if host = [] then .error .emptyHost else return ⟨String.ofList host, port, unitId⟩

theorem readNamed_eq_ok_iff {endpoint : List Char} {t : Target} :
    readNamed endpoint unitId = .ok t ↔
      ∃ host port, SpellsEndpoint endpoint host port ∧ host ≠ [] ∧ (⟨String.ofList host, port, unitId⟩ : Target) = t := by
  simp only [readNamed, bind_eq_ok_iff, Prod.exists, readEndpoint_eq_ok_iff]
  refine exists_congr fun host => exists_congr fun port => and_congr_right fun _ => ?_
  by_cases empty : host = [] <;> simp [empty, pure, Except.pure]

theorem readChars_withoutUnit (none : '/' ∉ cs) : readChars cs = readNamed cs defaultUnit := by
  rw [readChars, splitLast?_eq_none_iff.mpr none]
  rfl

theorem readChars_withUnit {endpoint numeral : List Char} (last : '/' ∉ numeral) :
    readChars (endpoint ++ '/' :: numeral) = readUnit numeral >>= readNamed endpoint := by
  rw [readChars, splitLast?_append last]
  simp only [pure_bind]
  rfl

/-- A text is read as a target just if it is spelled so. -/
theorem readChars_eq_ok_iff {t : Target} : readChars cs = .ok t ↔ Spells cs t := by
  constructor
  · intro read
    rcases slash : splitLast? '/' cs with _ | ⟨endpoint, numeral⟩
    · have none := splitLast?_eq_none_iff.mp slash
      rw [readChars_withoutUnit none] at read
      obtain ⟨host, port, spelled, nonempty, rfl⟩ := readNamed_eq_ok_iff.mp read
      exact .withoutUnit none spelled nonempty
    · obtain ⟨rfl, last⟩ := splitLast?_eq_some_iff.mp slash
      rw [readChars_withUnit last] at read
      obtain ⟨unitId, readUnit, read⟩ := bind_eq_ok_iff.mp read
      obtain ⟨host, port, spelled, nonempty, rfl⟩ := readNamed_eq_ok_iff.mp read
      exact .withUnit last (readUnit_eq_ok_iff.mp readUnit) spelled nonempty
  · intro spelled
    cases spelled with
    | withoutUnit none spelled nonempty =>
      rw [readChars_withoutUnit none]
      exact readNamed_eq_ok_iff.mpr ⟨_, _, spelled, nonempty, rfl⟩
    | withUnit last spelledUnit spelled nonempty =>
      rw [readChars_withUnit last]
      exact bind_eq_ok_iff.mpr
        ⟨_, readUnit_eq_ok_iff.mpr spelledUnit, readNamed_eq_ok_iff.mpr ⟨_, _, spelled, nonempty, rfl⟩⟩

end

/-- A text is read as the target that it is spelled for. Every other text is refused as invalid, with the text in the
    message. -/
theorem read_iff_spells (s : String) :
    (∀ t, read s = .ok t ↔ Spells s.toList t) ∧
      ((∀ t, ¬ Spells s.toList t) ↔
        ∃ reason, read s = .error reason ∧
          reason.message s = "invalid configuration: device '" ++ s ++ "': " ++ reason.text) := by
  have iff (t : Target) : read s = .ok t ↔ Spells s.toList t := readChars_eq_ok_iff
  have told (reason : Reason) : reason.message s = "invalid configuration: device '" ++ s ++ "': " ++ reason.text := rfl
  refine ⟨iff, ?_⟩
  simp only [← iff, told, and_true]
  rcases read s with reason | t <;> simp

/-- Slashes before the last one belong to the host. -/
example : read "site/plc:+0502/007" = .ok ⟨"site/plc", 502, 7⟩ := by decide

end Target

end FieldClock
