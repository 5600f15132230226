import FieldClock.Proofs.Text.Numeral
import FieldClock.Toml.Quoting

/-!
# Written texts are read back

Each of the four ways of writing a text is read back by its reader, if the text is one that it can hold; and a text is written
in a way that can hold it. Behind a written text there must not stand another quote.
-/

namespace FieldClock.Toml.Quoting

open Toml.Text (cons)

/-! ### Escapes -/

/-- What stands for a character in a text with escapes. -/
inductive Escaped (lines : Bool) (c : Char) : List Char → Prop
  | letter {l : Char} (stands : Text.escape? l = some c) : Escaped lines c ['\\', l]
  | number {w x y z : Char} (stands : Text.numbered? [w, x, y, z] = some c) : Escaped lines c ['\\', 'u', w, x, y, z]
  | plain (inLine : isLineChar c = true) (quote : c ≠ '"') (backslash : c ≠ '\\') : Escaped lines c [c]
  | lineBreak (break_ : c = '\n') (multi : lines = true) : Escaped lines c ['\n']

variable {c : Char} {cs rest : List Char} {lines : Bool}

theorem isLineChar_of_plain (plain : needsEscape c = false) (inLine : c ≠ '\n') : isLineChar c = true := by
  unfold needsEscape at plain
  unfold isLineChar
  simp only [Bool.or_eq_false_iff, Bool.and_eq_false_iff, decide_eq_false_iff_not, bne_eq_false_iff_eq,
    beq_eq_false_iff_ne] at plain
  obtain ⟨(printable | tab) | break_, delete⟩ := plain
  · have printable : 0x20 ≤ c.toNat := Nat.not_lt.mp printable
    simp [printable, delete]
  · simp [tab]
  · exact absurd break_ inLine

theorem numbered?_hexUpper (escaped : needsEscape c = true) : Text.numbered? (Numeral.hexUpper 4 c.toNat) = some c := by
  have small : c.toNat < 0x80 := by
    simp only [needsEscape, Bool.or_eq_true, Bool.and_eq_true, decide_eq_true_eq, beq_iff_eq] at escaped
    omega
  have read : Numeral.hexNumber? (Numeral.hexUpper 4 c.toNat) = some c.toNat := Numeral.hexNumber?_hexUpper (by omega)
  have valid : c.toNat < 0xD800 ∨ 0xE000 ≤ c.toNat ∧ c.toNat < 0x110000 := by omega
  simp [Text.numbered?, read, valid, Char.ofNat_toNat]

theorem escaped_escapeChar (quote : c ≠ '"') : Escaped lines c (escapeChar lines c) := by
  unfold escapeChar
  split
  · exact .letter (by simp_all [Text.escape?])
  split
  · exact .letter (by simp_all [Text.escape?])
  split
  · rename_i break_
    split
    · rename_i multi
      exact .lineBreak break_ multi
    · exact .letter (by simp_all [Text.escape?])
  split
  · exact .letter (by simp_all [Text.escape?])
  split
  · exact .letter (by simp_all [Text.escape?])
  split
  · exact .letter (by simp_all [Text.escape?])
  split
  · rename_i escaped
    have read := numbered?_hexUpper escaped
    have four : ∃ w x y z, Numeral.hexUpper 4 c.toNat = [w, x, y, z] := by simp [Numeral.hexUpper, Numeral.hexLower]
    obtain ⟨w, x, y, z, digits⟩ := four
    rw [digits] at read ⊢
    exact .number read
  · rename_i inLine _ _ backslash plain
    exact .plain (isLineChar_of_plain (Bool.eq_false_iff.mpr plain) inLine) quote backslash

theorem escape?_eq_some {l : Char} (stands : Text.escape? l = some c) :
    l ≠ 'u' ∧ l ≠ 'U' ∧ ∀ cs, Text.restIsBlank (l :: cs) = false := by
  refine ⟨?_, ?_, ?_⟩
  · rintro rfl
    cases stands
  · rintro rfl
    cases stands
  · intro cs
    have blank : isWs l = false := by
      unfold isWs
      simp only [Bool.or_eq_false_iff, beq_eq_false_iff_ne]
      constructor <;> rintro rfl <;> cases stands
    have break_ : l ≠ '\n' ∧ l ≠ '\r' := by
      constructor <;> rintro rfl <;> cases stands
    simp [Text.restIsBlank, blank, lineBreak?, break_]

theorem basic_escaped {w : List Char} (escaped : Escaped false c w) (cs : List Char) :
    Text.basic (w ++ cs) = cons c (Text.basic cs) := by
  cases escaped with
  | letter stands =>
    obtain ⟨small, large, -⟩ := escape?_eq_some stands
    simp [Text.basic, stands, small, large]
  | number stands => simp [Text.basic, stands]
  | plain inLine quote backslash => simp [Text.basic, inLine, backslash]
  | lineBreak break_ multi => cases multi

theorem basicLines_escaped {w : List Char} (escaped : Escaped lines c w) (cs : List Char) :
    Text.basicLines false (w ++ cs) = cons c (Text.basicLines false cs) := by
  cases escaped with
  | letter stands =>
    obtain ⟨small, large, solid⟩ := escape?_eq_some stands
    simp [Text.basicLines, stands, small, large, solid]
  | number stands => simp [Text.basicLines, stands]
  | plain inLine quote backslash =>
    have break_ : c ≠ '\n' := by
      rintro rfl
      cases inLine
    have return_ : c ≠ '\r' := by
      rintro rfl
      cases inLine
    simp [Text.basicLines, inLine, quote, backslash, return_]
  | lineBreak break_ multi => simp [Text.basicLines, break_]

theorem escape_cons (quote : c ≠ '"') (allowed run : Nat) (cs : List Char) :
    escape lines allowed run (c :: cs) = escapeChar lines c ++ escape lines allowed 0 cs := by
  simp [escape]

theorem escape_quote (allowed run : Nat) (cs : List Char) :
    escape lines allowed run ('"' :: cs) =
      if run < allowed then '"' :: escape lines allowed (run + 1) cs else '\\' :: '"' :: escape lines allowed 0 cs := by
  simp [escape]

/-- A text with escapes on one line is read back. -/
theorem basic_escape (run : Nat) (cs rest : List Char) :
    Text.basic (escape false 0 run cs ++ '"' :: rest) = some (cs, rest) := by
  induction cs generalizing run with
  | nil => simp [escape, Text.basic]
  | cons c cs ih =>
    by_cases quote : c = '"'
    · subst quote
      have read := basic_escaped (.letter rfl : Escaped false '"' ['\\', '"']) (escape false 0 0 cs ++ '"' :: rest)
      rw [ih 0] at read
      rw [escape_quote, if_neg (Nat.not_lt_zero run)]
      exact read
    · rw [escape_cons quote, List.append_assoc, basic_escaped (escaped_escapeChar quote), ih 0]
      rfl

theorem Escaped.head {w : List Char} (escaped : Escaped lines c w) : ∃ d ds, w = d :: ds ∧ d ≠ '"' := by
  cases escaped with
  | letter stands => exact ⟨_, _, rfl, by decide⟩
  | number stands => exact ⟨_, _, rfl, by decide⟩
  | plain inLine quote backslash => exact ⟨_, _, rfl, quote⟩
  | lineBreak break_ multi => exact ⟨_, _, rfl, by decide⟩

/-- A text with escapes begins with a quote only if it has one there that is not escaped. -/
theorem escape_head (lines : Bool) (allowed run : Nat) (nonempty : cs ≠ [])
    (closed : allowed ≤ run ∨ cs.head? ≠ some '"') : ∃ d ds, escape lines allowed run cs = d :: ds ∧ d ≠ '"' := by
  rcases cs with _ | ⟨c, cs⟩
  · exact absurd rfl nonempty
  by_cases quote : c = '"'
  · subst quote
    have full : ¬ run < allowed := Nat.not_lt.mpr (closed.resolve_right (absurd rfl))
    rw [escape_quote, if_neg full]
    exact ⟨_, _, rfl, by decide⟩
  · obtain ⟨d, ds, written, other⟩ := (escaped_escapeChar quote : Escaped lines c _).head
    rw [escape_cons quote, written]
    exact ⟨d, ds ++ _, rfl, other⟩

/-! ### Quotes on several lines -/

theorem basicLines_close (unquoted : rest.head? ≠ some '"') :
    Text.basicLines false ('"' :: '"' :: '"' :: rest) = some ([], rest) ∧
      Text.basicLines false ('"' :: '"' :: '"' :: '"' :: rest) = some (['"'], rest) := by
  rcases rest with _ | ⟨c, rest⟩
  · exact ⟨rfl, rfl⟩
  · have other : c ≠ '"' := fun quote => unquoted (congrArg some quote)
    simp [Text.basicLines, other]

/-- A quote that does not stand before two others is read as itself. -/
theorem basicLines_quote (few : ¬ ['"', '"'] <+: cs) :
    Text.basicLines false ('"' :: cs) = cons '"' (Text.basicLines false cs) := by
  rcases cs with _ | ⟨c, cs⟩
  · rfl
  by_cases second : c = '"'
  · subst second
    rcases cs with _ | ⟨d, cs⟩
    · rfl
    have third : d ≠ '"' := by
      rintro rfl
      exact few ⟨cs, rfl⟩
    simp [Text.basicLines, third, isLineChar]
  · simp [Text.basicLines, second, isLineChar]

/-- Behind a quote that was written, two more come only at the end of the text. -/
theorem escape_few (run : Nat) (behind : 1 ≤ run) (nonempty : cs ≠ []) (more : cs ≠ ['"'] ∨ 2 ≤ run)
    (next : List Char) : ¬ ['"', '"'] <+: escape true 2 run cs ++ next := by
  by_cases closed : 2 ≤ run ∨ cs.head? ≠ some '"'
  · obtain ⟨d, ds, written, other⟩ := escape_head true 2 run nonempty closed
    rw [written, List.cons_append, List.cons_prefix_cons]
    exact fun two => other two.1.symm
  · obtain ⟨few, quote⟩ := not_or.mp closed
    rcases cs with _ | ⟨c, cs⟩
    · exact absurd rfl nonempty
    obtain rfl : c = '"' := Option.some.inj (Decidable.not_not.mp quote)
    have longer : cs ≠ [] := by
      rintro rfl
      exact more.elim (absurd rfl) few
    obtain ⟨d, ds, written, other⟩ := escape_head true 2 (run + 1) longer (.inl (Nat.succ_le_succ behind))
    rw [escape_quote, if_pos (Nat.not_le.mp few), written, List.cons_append, List.cons_append, List.cons_prefix_cons,
      List.cons_prefix_cons]
    exact fun two => other two.2.1.symm

/-- A text with escapes on several lines is read back. Up to two quotes at its end stand right before the closing ones. -/
theorem basicLines_escape (unquoted : rest.head? ≠ some '"') (run : Nat) (cs : List Char) :
    Text.basicLines false (escape true 2 run cs ++ '"' :: '"' :: '"' :: rest) = some (cs, rest) := by
  induction cs generalizing run with
  | nil => exact (basicLines_close unquoted).1
  | cons c cs ih =>
    by_cases quote : c = '"'
    · subst quote
      rw [escape_quote]
      split
      · by_cases last : cs = []
        · subst last
          exact (basicLines_close unquoted).2
        by_cases pair : cs = ['"'] ∧ run = 0
        · obtain ⟨rfl, rfl⟩ := pair
          rfl
        have more : cs ≠ ['"'] ∨ 2 ≤ run + 1 := by
          rcases Nat.eq_zero_or_pos run with rfl | later
          · exact .inl fun one => pair ⟨one, rfl⟩
          · exact .inr (Nat.succ_le_succ later)
        have few := escape_few (run + 1) (Nat.succ_pos run) last more ('"' :: '"' :: '"' :: rest)
        rw [List.cons_append, basicLines_quote few, ih]
        rfl
      · have read := basicLines_escaped (.letter rfl : Escaped true '"' ['\\', '"'])
          (escape true 2 0 cs ++ '"' :: '"' :: '"' :: rest)
        rw [ih 0] at read
        exact read
    · rw [escape_cons quote, List.append_assoc, basicLines_escaped (escaped_escapeChar quote), ih 0]
      rfl

/-! ### Without escapes -/

/-- A text on one line without escapes is read back. -/
theorem literal_append (held : ∀ c ∈ cs, isLineChar c = true ∧ c ≠ '\'') (rest : List Char) :
    Text.literal (cs ++ '\'' :: rest) = some (cs, rest) := by
  induction cs with
  | nil => rfl
  | cons c cs ih =>
    obtain ⟨⟨inLine, single⟩, held⟩ := List.forall_mem_cons.mp held
    simp [Text.literal, inLine, ih held, cons]

theorem longestRun_cons_eq (run : Nat) (cs : List Char) : longestRun c run (c :: cs) = longestRun c (run + 1) cs := by
  simp [longestRun]

theorem le_longestRun (c : Char) (run : Nat) (cs : List Char) : run ≤ longestRun c run cs := by
  induction cs generalizing run with
  | nil => exact Nat.le_refl run
  | cons d cs ih =>
    unfold longestRun
    split
    · exact Nat.le_trans (Nat.le_succ run) (ih (run + 1))
    · exact Nat.le_max_left _ _

theorem longestRun_mono {run run' : Nat} (le : run ≤ run') (cs : List Char) : longestRun c run cs ≤ longestRun c run' cs := by
  induction cs generalizing run run' with
  | nil => exact le
  | cons d cs ih =>
    unfold longestRun
    split
    · exact ih (Nat.succ_le_succ le)
    · omega

theorem longestRun_tail_le (c d : Char) (cs : List Char) : longestRun c 0 cs ≤ longestRun c 0 (d :: cs) := by
  conv => rhs; unfold longestRun
  split
  · exact longestRun_mono (Nat.zero_le 1) cs
  · exact Nat.le_max_right _ _

theorem not_mem_of_longestRun (none : longestRun c 0 cs = 0) : c ∉ cs := by
  induction cs with
  | nil => exact List.not_mem_nil
  | cons d cs ih =>
    have tail := ih (Nat.le_zero.mp (Nat.le_trans (longestRun_tail_le c d cs) (Nat.le_of_eq none)))
    intro present
    rcases List.mem_cons.mp present with rfl | present
    · rw [longestRun_cons_eq] at none
      exact absurd (le_longestRun c 1 cs) (none ▸ Nat.not_succ_le_zero 0)
    · exact tail present

theorem literalLines_close (unquoted : rest.head? ≠ some '\'') :
    Text.literalLines ('\'' :: '\'' :: '\'' :: rest) = some ([], rest) ∧
      Text.literalLines ('\'' :: '\'' :: '\'' :: '\'' :: rest) = some (['\''], rest) := by
  rcases rest with _ | ⟨c, rest⟩
  · exact ⟨rfl, rfl⟩
  · have other : c ≠ '\'' := fun quote => unquoted (congrArg some quote)
    simp [Text.literalLines, other]

theorem literalLines_quote (few : ¬ ['\'', '\''] <+: cs) :
    Text.literalLines ('\'' :: cs) = cons '\'' (Text.literalLines cs) := by
  rcases cs with _ | ⟨c, cs⟩
  · rfl
  by_cases second : c = '\''
  · subst second
    rcases cs with _ | ⟨d, cs⟩
    · rfl
    have third : d ≠ '\'' := by
      rintro rfl
      exact few ⟨cs, rfl⟩
    simp [Text.literalLines, third, isLineChar]
  · simp [Text.literalLines, second, isLineChar]

/-- A text on several lines without escapes is read back, if no three quotes of it stand together. -/
theorem literalLines_append (unquoted : rest.head? ≠ some '\'') (plain : ∀ c ∈ cs, needsEscape c = false)
    (runs : longestRun '\'' 0 cs ≤ 2) :
    Text.literalLines (cs ++ '\'' :: '\'' :: '\'' :: rest) = some (cs, rest) := by
  induction cs with
  | nil => exact (literalLines_close unquoted).1
  | cons c cs ih =>
    obtain ⟨plain, plains⟩ := List.forall_mem_cons.mp plain
    have read := ih plains (Nat.le_trans (longestRun_tail_le _ c cs) runs)
    by_cases quote : c = '\''
    · subst quote
      rw [longestRun_cons_eq] at runs
      by_cases last : cs = []
      · subst last
        exact (literalLines_close unquoted).2
      by_cases pair : cs = ['\'']
      · subst pair
        rfl
      have few : ¬ ['\'', '\''] <+: cs ++ '\'' :: '\'' :: '\'' :: rest := by
        rcases cs with _ | ⟨c, _ | ⟨d, cs⟩⟩
        · exact absurd rfl last
        · rintro two
          obtain rfl := (List.cons_prefix_cons.mp two).1
          exact pair rfl
        · intro two
          obtain ⟨first, second⟩ := List.cons_prefix_cons.mp two
          have second := (List.cons_prefix_cons.mp second).1
          rw [← first, ← second] at runs
          rw [longestRun_cons_eq, longestRun_cons_eq] at runs
          exact absurd (Nat.le_trans (le_longestRun _ 3 cs) runs) (by omega)
      rw [List.cons_append, literalLines_quote few, read]
      rfl
    by_cases break_ : c = '\n'
    · simp [Text.literalLines, break_, read, cons]
    · have return_ : c ≠ '\r' := by
        rintro rfl
        cases plain
      have inLine := isLineChar_of_plain plain break_
      simp [Text.literalLines, quote, return_, inLine, read, cons]

/-! ### All ways -/

/-- A text that a way of writing can hold. -/
def Holds (cs : List Char) : Style → Prop
  | .basic => True
  | .literal => ∀ c ∈ cs, isLineChar c = true ∧ c ≠ '\''
  | .basicLines => True
  | .literalLines => (∀ c ∈ cs, needsEscape c = false) ∧ longestRun '\'' 0 cs ≤ 2

theorem plain_of_not_any (plain : (!cs.any needsEscape) = true) : ∀ c ∈ cs, needsEscape c = false := by
  intro c present
  rw [Bool.not_eq_true', List.any_eq_false] at plain
  exact Bool.eq_false_iff.mpr (plain c present)

/-- The way in which a text is written can hold it. -/
theorem holds_style (cs : List Char) : Holds cs (style cs) := by
  simp only [style, Bool.and_eq_true, decide_eq_true_eq, beq_iff_eq]
  split
  · trivial
  split
  · rename_i held
    obtain ⟨⟨plain, singles⟩, oneLine⟩ := held
    intro c present
    refine ⟨isLineChar_of_plain (plain_of_not_any plain c present) ?_, ?_⟩
    · rintro rfl
      simp [present] at oneLine
    · rintro rfl
      exact not_mem_of_longestRun singles present
  split
  · trivial
  split
  · rename_i held
    exact ⟨plain_of_not_any held.1, held.2⟩
  split <;> trivial

/-- The break before a text over several lines is taken away again, and nothing else is. -/
theorem dropFirstBreak_firstBreak {next : List Char} (solid : '\n' ∉ cs → lineBreak? next = none) :
    Text.dropFirstBreak (firstBreak cs ++ next) = next := by
  unfold firstBreak Text.dropFirstBreak
  split
  · rfl
  · rename_i oneLine
    rw [List.nil_append, solid (by simpa using oneLine)]
    rfl

theorem lineBreak?_cons (feed : c ≠ '\n') (return_ : c ≠ '\r') : lineBreak? (c :: cs) = none := by
  simp [lineBreak?, feed, return_]

theorem Escaped.lineBreak? {w : List Char} (escaped : Escaped lines c w) (feed : c ≠ '\n') (next : List Char) :
    Toml.lineBreak? (w ++ next) = none := by
  cases escaped with
  | letter stands => rfl
  | number stands => rfl
  | plain inLine quote backslash =>
    refine lineBreak?_cons feed ?_
    rintro rfl
    cases inLine
  | lineBreak break_ multi => exact absurd break_ feed

theorem lineBreak?_escape (oneLine : '\n' ∉ cs) (next : List Char) :
    lineBreak? (escape true 2 0 cs ++ '"' :: next) = none := by
  rcases cs with _ | ⟨c, cs⟩
  · rfl
  by_cases quote : c = '"'
  · subst quote
    rfl
  · have feed : c ≠ '\n' := fun same => oneLine (same ▸ List.mem_cons_self)
    rw [escape_cons quote, List.append_assoc]
    exact (escaped_escapeChar quote).lineBreak? feed _

theorem lineBreak?_plain (plain : ∀ c ∈ cs, needsEscape c = false) (oneLine : '\n' ∉ cs) (next : List Char) :
    lineBreak? (cs ++ '\'' :: next) = none := by
  rcases cs with _ | ⟨c, cs⟩
  · rfl
  refine lineBreak?_cons (fun same => oneLine (same ▸ List.mem_cons_self)) ?_
  rintro rfl
  cases plain '\r' List.mem_cons_self

theorem read?_double (few : ¬ ['"', '"'] <+: cs) : Text.read? ('"' :: cs) = some (Text.basic cs) := by
  unfold Text.read?
  split <;> simp_all

theorem read?_single (few : ¬ ['\'', '\''] <+: cs) : Text.read? ('\'' :: cs) = some (Text.literal cs) := by
  unfold Text.read?
  split <;> simp_all

theorem lone_quote {q : Char} (other : rest.head? ≠ some q) : ¬ [q, q] <+: q :: rest := by
  intro two
  obtain ⟨behind, same⟩ := (List.cons_prefix_cons.mp two).2
  exact other (same ▸ rfl)

/-- A text is read back from any way of writing that can hold it. -/
theorem read?_inStyle {way : Style} (held : Holds cs way) (double : rest.head? ≠ some '"')
    (single : rest.head? ≠ some '\'') : Text.read? (inStyle cs way ++ rest) = some (some (cs, rest)) := by
  cases way with
  | basic =>
    have few : ¬ ['"', '"'] <+: escape false 0 0 cs ++ '"' :: rest := by
      rcases cs with _ | ⟨c, cs⟩
      · exact lone_quote double
      · obtain ⟨d, ds, written, other⟩ := escape_head false 0 0 (List.cons_ne_nil c cs) (.inl (Nat.le_refl 0))
        rw [written, List.cons_append, List.cons_prefix_cons]
        exact fun two => other two.1.symm
    simp only [inStyle, List.cons_append, List.append_assoc, List.nil_append]
    rw [read?_double few, basic_escape]
  | literal =>
    have few : ¬ ['\'', '\''] <+: cs ++ '\'' :: rest := by
      rcases cs with _ | ⟨c, cs⟩
      · exact lone_quote single
      · intro two
        exact (held c List.mem_cons_self).2 (List.cons_prefix_cons.mp two).1.symm
    simp only [inStyle, List.cons_append, List.append_assoc, List.nil_append]
    rw [read?_single few, literal_append held]
  | basicLines =>
    simp only [inStyle, List.cons_append, List.append_assoc, List.nil_append]
    rw [Text.read?, dropFirstBreak_firstBreak fun oneLine => lineBreak?_escape oneLine _, basicLines_escape double]
  | literalLines =>
    obtain ⟨plain, runs⟩ := held
    simp only [inStyle, List.cons_append, List.append_assoc, List.nil_append]
    rw [Text.read?, dropFirstBreak_firstBreak fun oneLine => lineBreak?_plain plain oneLine _,
      literalLines_append single plain runs]

/-- Every text is read back as it was written. -/
theorem read?_quote (s : String) (double : rest.head? ≠ some '"') (single : rest.head? ≠ some '\'') :
    Text.read? (quote s ++ rest) = some (some (s.toList, rest)) :=
  read?_inStyle (holds_style s.toList) double single

end FieldClock.Toml.Quoting
