import FieldClock.Proofs.Toml.Assembly
import FieldClock.Proofs.Toml.Document

/-!
# Documents in sections

A document taken apart into the lines at its top and sections of lines under a heading each, in whatever way every line is
spelled. Sections may stand in any order, the elements of an array between other sections. Such a document is read if no key
is defined twice, and its entries are those at the top with the table of each section put in its place.
-/

namespace FieldClock.Toml

/-! ### Parts -/

/-- A line that gives a key a value, and how it is spelled. -/
structure Line where
  chars : List Char
  key : String
  value : Value

namespace Line

/-- The entry that a line means. -/
def entry (l : Line) : String × Value := (l.key, l.value)

/-- A line that means its entry. -/
def Readable (l : Line) : Prop := Means l.chars [.entry [l.key] l.value]

/-- The line with a key and an item. -/
def ofItem (line : String × Item) : Line := ⟨Block.lineChars line, line.1, line.2.value⟩

theorem readable_ofItem {line : String × Item} (bare : Bare line.1) (fits : line.2.Fits) : (ofItem line).Readable :=
  .line_ bare fits

end Line

/-- A section: the heading of a table or of an element, with its spelling, and the lines below it. -/
structure Section where
  heading : List Char
  isElement : Bool
  name : String
  lines : List Line

/-- A document taken apart. -/
structure Document where
  top : List Line
  sections : List Section

/-- The table that lines say. -/
def tableOf (lines : List Line) : Entries := lines.map Line.entry

namespace Section

/-- The characters of a section. -/
def chars (s : Section) : List Char := s.heading ++ s.lines.flatMap Line.chars

/-- The statements of a section. -/
def statements (s : Section) : List Statement := opening s.isElement s.name :: (tableOf s.lines).statements

/-- Puts the table of a section in its place. -/
def place (s : Section) (t : Entries) : Option Entries := t.place s.isElement s.name (tableOf s.lines)

/-- A section whose lines can be read and define no key twice. -/
structure WellFormed (s : Section) : Prop where
  heading : Means s.heading [opening s.isElement s.name]
  lines : ∀ l ∈ s.lines, l.Readable
  distinct : (s.lines.map Line.key).Nodup

end Section

/-- The section of items under a name. -/
def Section.ofItems (isElement : Bool) (name : String) (items : List (String × Item)) : Section where
  heading := Heading.chars (if isElement then .element name else .table name)
  isElement := isElement
  name := name
  lines := items.map Line.ofItem

theorem Section.WellFormed.ofItems (isElement : Bool) {name : String} {items : List (String × Item)} (bare : Bare name)
    (keys : ∀ line ∈ items, Bare line.1) (fits : ∀ line ∈ items, line.2.Fits) (distinct : (items.map (·.1)).Nodup) :
    (Section.ofItems isElement name items).WellFormed where
  heading := by
    cases isElement with
    | false => exact .heading (h := .table name) bare
    | true => exact .heading (h := .element name) bare
  lines := List.forall_mem_map.mpr fun line listed => Line.readable_ofItem (keys line listed) (fits line listed)
  distinct := by
    have same : (items.map Line.ofItem).map Line.key = items.map (·.1) := List.map_map
    rw [Section.ofItems, same]
    exact distinct

namespace Document

/-- The text of a document. -/
def text (d : Document) : String := String.ofList (d.top.flatMap Line.chars ++ d.sections.flatMap Section.chars)

/-- The entries of a document: those at the top, with each section put in its place. -/
def entries? (d : Document) : Option Entries := d.sections.foldlM (fun t s => s.place t) (tableOf d.top)

/-- A document that defines no key twice. Only sections that are elements may have a name in common. -/
structure WellFormed (d : Document) : Prop where
  top : ∀ l ∈ d.top, l.Readable
  distinct : (d.top.map Line.key).Nodup
  sections : ∀ s ∈ d.sections, s.WellFormed
  apart : ∀ s ∈ d.sections, s.name ∉ d.top.map Line.key
  repeated : d.sections.Pairwise fun s s' => s.name = s'.name → s.isElement = true ∧ s'.isElement = true

end Document

/-! ### Reading the lines -/

@[simp]
theorem keys_tableOf (lines : List Line) : (tableOf lines).keys = lines.map Line.key := by
  rw [Entries.keys, tableOf, List.map_map]
  rfl

theorem means_lines {lines : List Line} (readable : ∀ l ∈ lines, l.Readable) :
    Means (lines.flatMap Line.chars) (tableOf lines).statements := by
  rw [Entries.statements, tableOf, List.map_map, List.map_eq_flatMap]
  exact .flatMap readable

theorem Section.WellFormed.means {s : Section} (wellFormed : s.WellFormed) : Means s.chars s.statements :=
  wellFormed.heading.append (means_lines wellFormed.lines)

/-! ### Putting the sections in their places -/

namespace Entries

variable {isElement isElement' : Bool} {key name name' : String} {v : Value} {inner t t' : Entries}

theorem get?_append_single : get? key (t ++ [(name, v)]) = (get? key t).or (if name = key then some v else none) := by
  rw [get?, get?, List.find?_append, Option.map_or, List.find?_singleton]
  by_cases same : name = key <;> simp [same]

theorem get?_replace : get? key (t.replace name v) = if key = name then (get? key t).map fun _ => v else get? key t := by
  induction t with
  | nil => simp [get?, replace]
  | cons e t ih =>
    unfold get? replace at ih ⊢
    by_cases named : e.1 = name
    · by_cases same : key = name
      · simp [named, same]
      · simpa [named, same, Ne.symm same] using ih
    · by_cases here : e.1 = key
      · have other : key ≠ name := here ▸ named
        simp [here, other]
      · simpa [named, here] using ih

/-- Whether a table can be put under a name: nothing is there, or elements are and it is one more. -/
def Free (t : Entries) (isElement : Bool) (name : String) : Prop :=
  get? name t = none ∨ isElement = true ∧ ∃ items, get? name t = some (.array true items)

theorem Free.exists_place (free : t.Free isElement name) (inner : Entries) : ∃ t', t.place isElement name inner = some t' := by
  rcases free with absent | ⟨rfl, items, found⟩
  · exact ⟨_, place_new absent⟩
  · exact ⟨_, place_behind found⟩

/-- What is put in its place leaves other names free, and for elements also its own. -/
theorem Free.place (free : t.Free isElement' name') (placed : t.place isElement name inner = some t')
    (repeated : name = name' → isElement = true ∧ isElement' = true) : t'.Free isElement' name' := by
  unfold Free at free ⊢
  rcases place_cases placed with ⟨absent, rfl⟩ | ⟨element, items, found, rfl⟩
  · rw [get?_append_single]
    by_cases same : name = name'
    · obtain ⟨rfl, rfl⟩ := repeated same
      subst same
      rw [absent, if_pos rfl]
      exact .inr ⟨rfl, _, rfl⟩
    · rw [if_neg same, Option.or_none]
      exact free
  · rw [get?_replace]
    by_cases same : name' = name
    · subst same
      rw [if_pos rfl, found]
      exact .inr ⟨(repeated rfl).2, _, rfl⟩
    · rw [if_neg same]
      exact free

end Entries

/-- Sections whose names are free are put in their places one after the other. -/
theorem exists_places : ∀ {sections : List Section} {t : Entries}, (∀ s ∈ sections, s.WellFormed) →
    (∀ s ∈ sections, t.Free s.isElement s.name) →
    sections.Pairwise (fun s s' => s.name = s'.name → s.isElement = true ∧ s'.isElement = true) →
    ∃ t', sections.foldlM (fun t s => s.place t) t = some t' ∧ Extends (sections.flatMap Section.statements) t t'
  | [], t, _, _, _ => ⟨t, rfl, .nil⟩
  | s :: sections, t, wellFormed, free, repeated => by
    obtain ⟨first, wellFormed⟩ := List.forall_mem_cons.mp wellFormed
    obtain ⟨here, free⟩ := List.forall_mem_cons.mp free
    obtain ⟨alone, repeated⟩ := List.pairwise_cons.mp repeated
    obtain ⟨t₁, placed⟩ := here.exists_place (tableOf s.lines)
    have free₁ : ∀ s' ∈ sections, t₁.Free s'.isElement s'.name := fun s' later =>
      (free s' later).place placed (alone s' later)
    obtain ⟨t', rest, extends_⟩ := exists_places wellFormed free₁ repeated
    refine ⟨t', ?_, (Extends.place (by simpa using first.distinct) placed).append extends_⟩
    rw [List.foldlM_cons, Section.place, placed]
    exact rest

/-- A well-formed document is read as its entries. -/
theorem Document.WellFormed.read_text {d : Document} (wellFormed : d.WellFormed) :
    ∃ t, d.entries? = some t ∧ Toml.read d.text = some t := by
  have free : ∀ s ∈ d.sections, (tableOf d.top).Free s.isElement s.name := by
    intro s listed
    refine .inl (Entries.get?_absent ?_)
    rw [keys_tableOf]
    exact wellFormed.apart s listed
  obtain ⟨t, placed, extends_⟩ := exists_places wellFormed.sections free wellFormed.repeated
  have means := (means_lines wellFormed.top).append (Means.flatMap fun s listed => (wellFormed.sections s listed).means)
  refine ⟨t, placed, ?_⟩
  rw [Toml.read, Document.text, String.toList_ofList, means.readStatements]
  exact extends_.assembleEntries (by simpa using wellFormed.distinct)

end FieldClock.Toml
