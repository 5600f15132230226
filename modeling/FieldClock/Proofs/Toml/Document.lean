import FieldClock.Proofs.Toml.Quoting
import FieldClock.Proofs.Toml.Scalar
import FieldClock.Toml.Reading
import FieldClock.Toml.Writing

/-!
# Written documents are read back

The lines of a document of blocks are read as its statements. Keys and names are bare: they hold nothing that would have to
stand in quotes.
-/

namespace FieldClock.Toml

/-- A key that stands without quotes. -/
structure Bare (key : String) : Prop where
  nonempty : key.toList ≠ []
  chars : ∀ c ∈ key.toList, isBareChar c = true

instance (key : String) : Decidable (Bare key) :=
  decidable_of_iff (key.toList ≠ [] ∧ key.toList.all isBareChar = true)
    ⟨fun ⟨nonempty, chars⟩ => ⟨nonempty, List.all_eq_true.mp chars⟩,
      fun ⟨nonempty, chars⟩ => ⟨nonempty, List.all_eq_true.mpr chars⟩⟩

/-- An item whose number is one of 64 bits with a sign. -/
def Item.Fits : Item → Prop
  | .number n => n ≤ 9223372036854775807
  | _ => True

instance : DecidablePred Item.Fits
  | .number n => inferInstanceAs (Decidable (n ≤ 9223372036854775807))
  | .text _ => .isTrue trivial
  | .flag _ => .isTrue trivial
  | .emptyArray => .isTrue trivial

/-- The name in a heading is bare. -/
def Heading.Bare : Heading → Prop
  | .document => True
  | .table name => Toml.Bare name
  | .element name => Toml.Bare name

/-- A block that can be read back. -/
structure Block.Readable (b : Block) : Prop where
  heading : b.heading.Bare
  keys : ∀ key ∈ b.lines.map (·.1), Bare key
  items : ∀ line ∈ b.lines, line.2.Fits

/-! ### Characters -/

section
variable {c : Char} {cs rest : List Char} {key : String}

theorem ne_of_kind {kind : Char → Bool} {d : Char} (inside : kind c = true) (outside : kind d = false) : c ≠ d := by
  rintro rfl
  rw [inside] at outside
  cases outside

theorem skipWs_cons (solid : isWs c = false) : skipWs (c :: cs) = c :: cs := by
  simp [skipWs, solid]

theorem skipWs_blank : skipWs (' ' :: cs) = skipWs cs := rfl

theorem isWs_of_bare (bare : isBareChar c = true) : isWs c = false := by
  simp [isWs, ne_of_kind bare (d := ' ') rfl, ne_of_kind bare (d := '\t') rfl]

theorem Bare.exists_cons (bare : Bare key) : ∃ c cs, key.toList = c :: cs ∧ isBareChar c = true := by
  obtain ⟨c, cs, spelled⟩ := List.exists_cons_of_ne_nil bare.nonempty
  exact ⟨c, cs, spelled, bare.chars c (spelled ▸ List.mem_cons_self)⟩

theorem endLine?_none (solid : isWs c = false) (comment : c ≠ '#') (feed : c ≠ '\n') (return_ : c ≠ '\r') :
    endLine? (c :: cs) = none := by
  simp [endLine?, skipWs_cons solid, comment, lineBreak?, feed, return_]

theorem endLine?_bare (bare : isBareChar c = true) : endLine? (c :: cs) = none :=
  endLine?_none (isWs_of_bare bare) (ne_of_kind bare rfl) (ne_of_kind bare rfl) (ne_of_kind bare rfl)

/-! ### Keys -/

theorem keyPart?_bare (bare : Bare key) (next : isBareChar c = false) :
    keyPart? (key.toList ++ c :: cs) = some (key, c :: cs) := by
  obtain ⟨d, ds, spelled, first⟩ := bare.exists_cons
  have taken : (key.toList ++ c :: cs).takeWhile isBareChar = key.toList := by
    rw [List.takeWhile_append_of_pos bare.chars]
    simp [next]
  have left : (key.toList ++ c :: cs).dropWhile isBareChar = c :: cs := by
    rw [List.dropWhile_append_of_pos bare.chars]
    simp [next]
  have double : d ≠ '"' := ne_of_kind first rfl
  have single : d ≠ '\'' := ne_of_kind first rfl
  unfold keyPart?
  split
  · rename_i quoted
    rw [spelled] at quoted
    exact absurd (List.cons.inj quoted).1 double
  · rename_i quoted
    rw [spelled] at quoted
    exact absurd (List.cons.inj quoted).1 single
  · simp only [taken, left, if_neg bare.nonempty, String.ofList_toList]

/-- A bare key is read with the blanks behind it, if no point follows. -/
theorem key?_bare (bare : Bare key) (next : isBareChar c = false) (solid : skipWs (c :: cs) = rest)
    (single : rest.head? ≠ some '.') : key? (key.toList ++ c :: cs) = some ([key], rest) := by
  obtain ⟨d, ds, spelled, first⟩ := bare.exists_cons
  have begins : skipWs (key.toList ++ c :: cs) = key.toList ++ c :: cs := by
    rw [spelled]
    exact skipWs_cons (isWs_of_bare first)
  show keyParts? (78 + 1) _ = _
  rw [keyParts?, begins, keyPart?_bare bare next]
  simp only [Option.bind_eq_bind, Option.bind_some, solid]
  split
  · exact absurd rfl single
  · rfl

end

/-! ### Items -/

section
variable {c : Char} {cs word : List Char} {item : Item}

theorem value?_flat (bracket : c ≠ '[') (brace : c ≠ '\x7b') : value? depthLimit (c :: cs) = flatValue? (c :: cs) := by
  show value? (78 + 1) _ = _
  unfold value?
  split
  · rename_i begins
    exact absurd (List.cons.inj begins).1 bracket
  · rename_i begins
    exact absurd (List.cons.inj begins).1 brace
  · rfl

theorem Text.read?_eq_none (double : c ≠ '"') (single : c ≠ '\'') : Text.read? (c :: cs) = none := by
  simp [Text.read?, double, single]

theorem isWs_of_wordChar (letter : Scalar.isWordChar c = true) : isWs c = false := by
  simp [isWs, ne_of_kind letter (d := ' ') rfl, ne_of_kind letter (d := '\t') rfl]

theorem isWordChar_toDigits (n : Nat) : ∀ c ∈ Nat.toDigits 10 n, Scalar.isWordChar c = true := by
  intro c digit
  simp [Scalar.isWordChar, Char.isAlphanum, Numeral.isDigit_toDigits n c digit]

theorem value?_word {v : Value} (nonempty : word ≠ []) (letters : ∀ c ∈ word, Scalar.isWordChar c = true)
    (read : Scalar.word? word = some v) : value? depthLimit (word ++ '\n' :: cs) = some (v, '\n' :: cs) := by
  have whole := Scalar.read?_word letters cs
  rw [read] at whole
  obtain ⟨c, ds, spelled⟩ := List.exists_cons_of_ne_nil nonempty
  have letter := letters c (spelled ▸ List.mem_cons_self)
  rw [spelled] at whole ⊢
  rw [List.cons_append, value?_flat (ne_of_kind letter rfl) (ne_of_kind letter rfl), flatValue?,
    Text.read?_eq_none (ne_of_kind letter rfl) (ne_of_kind letter rfl)]
  exact whole

theorem Quoting.exists_quote (s : String) : ∃ q ds, Quoting.quote s = q :: ds ∧ (q = '"' ∨ q = '\'') := by
  unfold Quoting.quote
  cases Quoting.style s.toList with
  | basic => exact ⟨_, _, rfl, .inl rfl⟩
  | literal => exact ⟨_, _, rfl, .inr rfl⟩
  | basicLines => exact ⟨_, _, rfl, .inl rfl⟩
  | literalLines => exact ⟨_, _, rfl, .inr rfl⟩

theorem value?_quote (s : String) : value? depthLimit (Quoting.quote s ++ '\n' :: cs) = some (.text s, '\n' :: cs) := by
  obtain ⟨q, ds, spelled, mark⟩ := Quoting.exists_quote s
  have whole : Text.read? (Quoting.quote s ++ '\n' :: cs) = _ := Quoting.read?_quote s nofun nofun
  have flat : value? depthLimit (Quoting.quote s ++ '\n' :: cs) = flatValue? (Quoting.quote s ++ '\n' :: cs) := by
    rw [spelled]
    rcases mark with rfl | rfl
    · exact value?_flat nofun nofun
    · exact value?_flat nofun nofun
  rw [flat, flatValue?, whole]
  simp [String.ofList_toList]

/-- An item is read back up to the end of its line. -/
theorem value?_item (fits : item.Fits) : value? depthLimit (item.chars ++ '\n' :: cs) = some (item.value, '\n' :: cs) := by
  cases item with
  | text s => exact value?_quote s
  | number n => exact value?_word Nat.toDigits_ne_nil (isWordChar_toDigits n) (Scalar.word?_toDigits fits)
  | flag b =>
    cases b with
    | true => exact value?_word (List.cons_ne_nil _ _) (List.all_eq_true.mp rfl) rfl
    | false => exact value?_word (List.cons_ne_nil _ _) (List.all_eq_true.mp rfl) rfl
  | emptyArray => rfl

theorem skipWs_item (i : Item) : skipWs (i.chars ++ cs) = i.chars ++ cs := by
  obtain ⟨c, ds, spelled, solid⟩ : ∃ c ds, i.chars = c :: ds ∧ isWs c = false := by
    cases i with
    | text s =>
      obtain ⟨q, ds, spelled, rfl | rfl⟩ := Quoting.exists_quote s
      · exact ⟨_, ds, spelled, rfl⟩
      · exact ⟨_, ds, spelled, rfl⟩
    | number n =>
      obtain ⟨c, ds, spelled⟩ := List.exists_cons_of_ne_nil (Nat.toDigits_ne_nil (n := n) (b := 10))
      exact ⟨c, ds, spelled, isWs_of_wordChar (isWordChar_toDigits n c (spelled ▸ List.mem_cons_self))⟩
    | flag b => cases b <;> exact ⟨_, _, rfl, rfl⟩
    | emptyArray => exact ⟨_, _, rfl, rfl⟩
  rw [spelled]
  exact skipWs_cons solid

end

/-! ### Statements -/

section
variable {c : Char} {cs line : List Char} {name : String} {item : Item}

theorem statement?_line (bare : Bare name) (fits : item.Fits) :
    statement? (Block.lineChars (name, item) ++ cs) = some (.entry [name] item.value, '\n' :: cs) := by
  obtain ⟨c, ds, spelled, first⟩ := bare.exists_cons
  have key : key? (name.toList ++ ' ' :: '=' :: ' ' :: (item.chars ++ '\n' :: cs)) =
      some ([name], '=' :: ' ' :: (item.chars ++ '\n' :: cs)) := key?_bare bare rfl rfl nofun
  have read : keyValue? (value? depthLimit) (name.toList ++ ' ' :: '=' :: ' ' :: (item.chars ++ '\n' :: cs)) =
      some (([name], item.value), '\n' :: cs) := by
    simp only [keyValue?, key, Option.bind_eq_bind, Option.bind_some, skipWs_blank, skipWs_item, value?_item fits]
    rfl
  have lined : Block.lineChars (name, item) ++ cs = name.toList ++ ' ' :: '=' :: ' ' :: (item.chars ++ '\n' :: cs) := by
    simp [Block.lineChars]
  rw [lined]
  unfold statement?
  split
  · rename_i begins
    rw [spelled] at begins
    exact absurd (List.cons.inj begins).1 (ne_of_kind first rfl)
  · rename_i begins
    rw [spelled] at begins
    exact absurd (List.cons.inj begins).1 (ne_of_kind first rfl)
  · rw [read]
    rfl

theorem headerKey?_bare (bare : Bare name) : headerKey? (name.toList ++ ']' :: cs) = some ([name], cs) := by
  have key : key? (name.toList ++ ']' :: cs) = some ([name], ']' :: cs) := key?_bare bare rfl rfl nofun
  rw [headerKey?, key]
  rfl

theorem statement?_table (bare : Bare name) :
    statement? ('[' :: name.toList ++ ']' :: '\n' :: cs) = some (.header [name], '\n' :: cs) := by
  obtain ⟨c, ds, spelled, first⟩ := bare.exists_cons
  have read : headerKey? (name.toList ++ ']' :: '\n' :: cs) = _ := headerKey?_bare bare
  rw [List.cons_append]
  unfold statement?
  split
  · rename_i begins
    rw [spelled] at begins
    exact absurd (List.cons.inj (List.cons.inj begins).2).1 (ne_of_kind first rfl)
  · rename_i begins
    obtain rfl := (List.cons.inj begins).2
    rw [read]
    rfl
  · rename_i other
    exact absurd rfl (other _)

theorem statement?_element (bare : Bare name) :
    statement? ('[' :: '[' :: name.toList ++ ']' :: ']' :: '\n' :: cs) = some (.element [name], '\n' :: cs) := by
  have read : headerKey? (name.toList ++ ']' :: ']' :: '\n' :: cs) = _ := headerKey?_bare bare
  simp only [List.cons_append, statement?, read]
  rfl

end

/-! ### Documents -/

/-- A text is read as statements, with fuel for each of its characters. -/
structure Reads (cs : List Char) (statements : List Statement) : Prop where
  unmarked : cs.head? ≠ some '\uFEFF'
  reads : ∀ fuel, cs.length < fuel → statements? fuel cs = some statements

namespace Reads

variable {c : Char} {cs line behind : List Char} {s : Statement} {ss : List Statement}

theorem nil : Reads [] [] where
  unmarked := nofun
  reads fuel enough := by
    rcases fuel with _ | fuel
    · cases enough
    · rfl

theorem break_ (rest : Reads cs ss) : Reads ('\n' :: cs) ss where
  unmarked := by simp
  reads fuel enough := by
    rcases fuel with _ | fuel
    · cases enough
    · exact rest.reads fuel (Nat.lt_of_succ_lt_succ enough)

/-- A line begins with a bare character or a bracket and is read up to its end. -/
theorem statement (rest : Reads cs ss) (start : isBareChar c = true ∨ c = '[')
    (read : statement? (c :: line ++ cs) = some (s, behind)) (ends : endLine? behind = some cs) :
    Reads (c :: line ++ cs) (s :: ss) where
  unmarked := by
    intro mark
    obtain rfl := Option.some.inj mark
    rcases start with bare | bracket
    · cases bare
    · cases bracket
  reads fuel enough := by
    rcases fuel with _ | fuel
    · cases enough
    have left : cs.length < fuel := by
      simp only [List.length_append, List.length_cons] at enough
      omega
    have solid : isWs c = false := by
      rcases start with bare | rfl
      · exact isWs_of_bare bare
      · rfl
    have more : endLine? (c :: (line ++ cs)) = none := by
      rcases start with bare | rfl
      · exact endLine?_bare bare
      · exact endLine?_none rfl nofun nofun nofun
    rw [List.cons_append] at read ⊢
    rw [statements?, if_neg (List.cons_ne_nil _ _), more, skipWs_cons solid, read]
    simp [ends, rest.reads fuel left]

end Reads

/-- A text means statements: in front of any text that is read, it is read as these. -/
def Means (chars : List Char) (meant : List Statement) : Prop := ∀ cs ss, Reads cs ss → Reads (chars ++ cs) (meant ++ ss)

namespace Means

section
variable {c : Char} {chars chars' line : List Char} {meant meant' : List Statement} {s : Statement} {name : String} {item : Item}

theorem nil : Means [] [] := fun _ _ rest => rest

theorem append (first : Means chars meant) (next : Means chars' meant') : Means (chars ++ chars') (meant ++ meant') := by
  intro cs ss rest
  rw [List.append_assoc, List.append_assoc]
  exact first _ _ (next _ _ rest)

theorem break_ (means : Means chars meant) : Means ('\n' :: chars) meant := fun cs ss rest => (means cs ss rest).break_

/-- Texts one behind the other say their statements one behind the other. -/
theorem flatMap {α : Type} {text : α → List Char} {meaning : α → List Statement} :
    ∀ {parts : List α}, (∀ part ∈ parts, Means (text part) (meaning part)) → Means (parts.flatMap text) (parts.flatMap meaning)
  | [], _ => nil
  | _ :: _, means => by
    obtain ⟨first, means⟩ := List.forall_mem_cons.mp means
    exact first.append (flatMap means)

/-- A line means a statement if it begins with a bare character or a bracket and is read up to its end, whatever follows. -/
theorem statement (start : isBareChar c = true ∨ c = '[')
    (read : ∀ cs, ∃ behind, statement? (c :: line ++ cs) = some (s, behind) ∧ endLine? behind = some cs) :
    Means (c :: line) [s] := by
  intro cs ss rest
  obtain ⟨behind, read, ends⟩ := read cs
  exact rest.statement start read ends

theorem line_ (bare : Bare name) (fits : item.Fits) : Means (Block.lineChars (name, item)) [.entry [name] item.value] := by
  obtain ⟨c, ds, spelled, first⟩ := bare.exists_cons
  have read (cs : List Char) : statement? (Block.lineChars (name, item) ++ cs) = _ := statement?_line bare fits
  have lined : Block.lineChars (name, item) = c :: (ds ++ ' ' :: '=' :: ' ' :: (item.chars ++ ['\n'])) := by
    simp [Block.lineChars, spelled]
  rw [lined] at read ⊢
  exact statement (.inl first) fun cs => ⟨_, read cs, rfl⟩

theorem heading {h : Heading} (bare : h.Bare) : Means h.chars h.statements := by
  cases h with
  | document => exact nil
  | table name =>
    have read (cs : List Char) : statement? ('[' :: (name.toList ++ [']', '\n']) ++ cs) = some (.header [name], '\n' :: cs) := by
      have table : statement? ('[' :: name.toList ++ ']' :: '\n' :: cs) = _ := statement?_table bare
      simpa using table
    exact (statement (.inr rfl) fun cs => ⟨_, read cs, rfl⟩).break_
  | element name =>
    have read (cs : List Char) :
        statement? ('[' :: ('[' :: name.toList ++ [']', ']', '\n']) ++ cs) = some (.element [name], '\n' :: cs) := by
      have element : statement? ('[' :: '[' :: name.toList ++ ']' :: ']' :: '\n' :: cs) = _ := statement?_element bare
      simpa using element
    exact (statement (.inr rfl) fun cs => ⟨_, read cs, rfl⟩).break_

end

/-- A text that means statements is a document of them. -/
theorem readStatements {cs : List Char} {ss : List Statement} (means : Means cs ss) : readStatements cs = some ss := by
  have whole := means [] [] .nil
  rw [List.append_nil, List.append_nil] at whole
  have unmarked : dropMark cs = cs := by
    unfold dropMark
    split
    · exact absurd rfl whole.unmarked
    · rfl
  rw [Toml.readStatements, unmarked]
  exact whole.reads _ (Nat.lt_succ_self _)

end Means

theorem Block.Readable.means {b : Block} (readable : b.Readable) : Means b.chars b.statements := by
  rw [Block.chars, Block.statements, List.map_eq_flatMap]
  refine (Means.heading readable.heading).append (Means.flatMap fun line listed => ?_)
  exact .line_ (readable.keys line.1 (List.mem_map_of_mem listed)) (readable.items line listed)

/-- The lines of readable blocks are read as the statements of the blocks. -/
theorem readStatements_blocks {blocks : List Block} (readable : ∀ b ∈ blocks, b.Readable) :
    readStatements (write blocks).toList = some (blocks.flatMap Block.statements) := by
  rw [write, String.toList_ofList]
  exact (Means.flatMap fun b listed => (readable b listed).means).readStatements

end FieldClock.Toml
