import FieldClock.Proofs.Settings.Known
import FieldClock.Proofs.Toml.Sections

/-!
# Notes in documents

A document may hold lines and whole sections that no setting is read from. With them it is still read, as long as it defines
no key twice, and it gives the settings that it gives without them.
-/

namespace FieldClock

open Toml (Entries Line Section Value tableOf)

/-! ### Leaving notes out -/

/-- Whether a line with a key counts in a section: in the layout the lines of its registers, in a target its own, and elsewhere
    any line. -/
def Toml.Section.knows (s : Section) (key : String) : Bool :=
  if s.isElement = false ∧ s.name = "registers" then key ∈ Settings.registerKeys
  else if s.isElement = true ∧ s.name = "devices" then key ∈ Settings.targetKeys
  else true

/-- A section without the lines that no setting is read from. -/
def Toml.Section.withoutNotes (s : Section) : Section := { s with lines := s.lines.filter (s.knows ·.key) }

/-- A document without the lines and the sections that no setting is read from. -/
def Toml.Document.withoutNotes (d : Toml.Document) : Toml.Document where
  top := d.top.filter (·.key ∈ Settings.topKeys)
  sections := (d.sections.filter (·.name ∈ Settings.topKeys)).map Section.withoutNotes

theorem Toml.Section.WellFormed.withoutNotes {s : Section} (wellFormed : s.WellFormed) : s.withoutNotes.WellFormed where
  heading := wellFormed.heading
  lines l listed := wellFormed.lines l (List.mem_filter.mp listed).1
  distinct := wellFormed.distinct.sublist (List.filter_sublist.map _)

theorem Toml.Document.WellFormed.withoutNotes {d : Toml.Document} (wellFormed : d.WellFormed) : d.withoutNotes.WellFormed where
  top l listed := wellFormed.top l (List.mem_filter.mp listed).1
  distinct := wellFormed.distinct.sublist (List.filter_sublist.map _)
  sections s listed := by
    obtain ⟨s, kept, rfl⟩ := List.mem_map.mp listed
    exact (wellFormed.sections s (List.mem_filter.mp kept).1).withoutNotes
  apart s listed := by
    obtain ⟨s, kept, rfl⟩ := List.mem_map.mp listed
    exact mt (fun named => (List.filter_sublist.map _).subset named) (wellFormed.apart s (List.mem_filter.mp kept).1)
  repeated := List.pairwise_map.mpr (wellFormed.repeated.sublist List.filter_sublist)

namespace Settings

/-! ### What is known of tables -/

section
variable {key name : String} {v w : Value} {t u : Entries}

/-- What is known of a value under a key. -/
def knownValue (key : String) (v : Value) : Value := (knownEntry (key, v)).2

theorem known_append : known (t ++ u) = known t ++ known u := by
  rw [known, Entries.only, List.filter_append, List.map_append]
  rfl

theorem known_only : known (t.only topKeys) = known t := by
  rw [known, known, Entries.only, Entries.only, List.filter_filter]
  simp only [Bool.and_self]

theorem known_other (other : key ∉ topKeys) : known [(key, v)] = [] := by
  simp [known, Entries.only, other]

theorem known_top (top : key ∈ topKeys) : known [(key, v)] = [(key, knownValue key v)] := by
  simp [known, Entries.only, top, knownValue, knownEntry]

theorem known_replace : known (t.replace key v) = (known t).replace key (knownValue key v) := by
  have keys : ∀ e : String × Value, (if e.1 = key then (key, v) else e).1 = e.1 := by
    intro e
    split
    · rename_i same
      exact same.symm
    · rfl
  have entry : ∀ e : String × Value,
      knownEntry (if e.1 = key then (key, v) else e) =
        if (knownEntry e).1 = key then (key, knownValue key v) else knownEntry e := by
    intro e
    show _ = if e.1 = key then _ else _
    split <;> rfl
  simp only [known, Entries.only, Entries.replace, List.filter_map, List.map_map, Function.comp_def, keys, entry]

theorem get?_known (top : key ∈ topKeys) : Entries.get? key (known t) = (Entries.get? key t).map (knownValue key) := by
  have named : ∀ e : String × Value,
      decide (decide (e.1 ∈ topKeys) = true ∧ decide ((knownEntry e).1 = key) = true) = decide (e.1 = key) := by
    intro e
    show decide (decide (e.1 ∈ topKeys) = true ∧ decide (e.1 = key) = true) = decide (e.1 = key)
    by_cases same : e.1 = key <;> simp [same, top]
  rw [Entries.get?, Entries.get?, known, Entries.only, List.find?_map, List.find?_filter]
  simp only [Function.comp_def, named]
  rcases found : List.find? (fun e : String × Value => e.1 = key) t with _ | e
  · rfl
  · obtain rfl : e.1 = key := by simpa using List.find?_some found
    rfl

theorem keys_known (t : Entries) : ∀ key ∈ (known t).keys, key ∈ topKeys := by
  intro key listed
  obtain ⟨e, present, rfl⟩ := List.mem_map.mp listed
  obtain ⟨e, kept, rfl⟩ := List.mem_map.mp present
  exact of_decide_eq_true (List.mem_filter.mp kept).2

end

/-! ### Putting sections in their places -/

section
variable {s : Section} {t t' u u' : Entries}

theorem tableOf_filter (keys : List String) (lines : List Line) :
    tableOf (lines.filter (·.key ∈ keys)) = (tableOf lines).only keys := by
  rw [Entries.only, tableOf, tableOf, List.filter_map]
  rfl

theorem only_tableOf (keys : List String) (lines : List Line) :
    (Value.table .header (tableOf (lines.filter (·.key ∈ keys)))).only keys =
      (Value.table .header (tableOf lines)).only keys := by
  rw [Value.only, Value.only, tableOf_filter, Entries.only, Entries.only, List.filter_filter]
  simp only [Bool.and_self]

theorem knownValue_array {name : String} (other : name ≠ "devices") (items : List Value) :
    knownValue name (.array true items) = .array true items := by
  unfold knownValue knownEntry
  by_cases layout : name = "registers"
  · simp only [if_pos layout, Value.only]
  · simp only [if_neg layout, if_neg other]

/-- Leaving notes out is leaving out the keys that no register has, or that no target has, or nothing. -/
theorem withoutNotes_cases (s : Section) :
    (s.isElement = false ∧ s.name = "registers" ∧ s.withoutNotes.lines = s.lines.filter (·.key ∈ registerKeys)) ∨
      (s.isElement = true ∧ s.name = "devices" ∧ s.withoutNotes.lines = s.lines.filter (·.key ∈ targetKeys)) ∨
      ¬ (s.isElement = true ∧ s.name = "devices") ∧ s.withoutNotes.lines = s.lines := by
  unfold Section.withoutNotes Section.knows
  by_cases layout : s.isElement = false ∧ s.name = "registers"
  · exact .inl ⟨layout.1, layout.2, by simp only [if_pos layout]⟩
  · by_cases target : s.isElement = true ∧ s.name = "devices"
    · exact .inr (.inl ⟨target.1, target.2, by simp only [if_neg layout, if_pos target]⟩)
    · exact .inr (.inr ⟨target, by simp only [if_neg layout, if_neg target, List.filter_eq_self, implies_true]⟩)

/-- What is known of the first table in a place is known without its notes. -/
theorem knownValue_ofFirst (s : Section) :
    knownValue s.name (.ofFirst s.isElement (tableOf s.withoutNotes.lines)) =
      knownValue s.name (.ofFirst s.isElement (tableOf s.lines)) := by
  rcases withoutNotes_cases s with ⟨kind, name, lines⟩ | ⟨kind, name, lines⟩ | ⟨-, lines⟩
  · rw [kind, name, lines]
    exact only_tableOf registerKeys s.lines
  · rw [kind, name, lines]
    exact congrArg (fun element => Value.array true [element]) (only_tableOf targetKeys s.lines)
  · rw [lines]

/-- What is known of elements and of a table behind them is known without its notes. -/
theorem knownValue_behind {items items' : List Value} (element : s.isElement = true)
    (same : knownValue s.name (.array true items) = knownValue s.name (.array true items')) :
    knownValue s.name (.array true (items ++ [.table .header (tableOf s.lines)])) =
      knownValue s.name (.array true (items' ++ [.table .header (tableOf s.withoutNotes.lines)])) := by
  rcases withoutNotes_cases s with ⟨kind, -, -⟩ | ⟨-, name, lines⟩ | ⟨other, lines⟩
  · rw [element] at kind
    cases kind
  · rw [name] at same ⊢
    have elements : items.map (Value.only targetKeys) = items'.map (Value.only targetKeys) := (Value.array.inj same).2
    have each (items : List Value) (inner : Entries) :
        knownValue "devices" (.array true (items ++ [.table .header inner])) =
          .array true (items.map (Value.only targetKeys) ++ [(Value.table .header inner).only targetKeys]) :=
      congrArg (Value.array true) List.map_append
    rw [each, each, elements, lines, only_tableOf]
  · have other : s.name ≠ "devices" := fun name => other ⟨element, name⟩
    rw [knownValue_array other, knownValue_array other] at same
    rw [lines, (Value.array.inj same).2]

/-- A section adds the same to what is known, with its notes and without them. -/
theorem known_place (top : s.name ∈ topKeys) (same : known t = known u) (placed : s.place t = some t')
    (placed' : s.withoutNotes.place u = some u') : known t' = known u' := by
  have there : (Entries.get? s.name t).map (knownValue s.name) = (Entries.get? s.name u).map (knownValue s.name) := by
    rw [← get?_known top, ← get?_known top, same]
  rcases Entries.place_cases placed with ⟨absent, rfl⟩ | ⟨element, items, found, rfl⟩
  · rcases Entries.place_cases placed' with ⟨absent', rfl⟩ | ⟨element', items', found', rfl⟩
    · rw [known_append, known_append, known_top top, same, ← knownValue_ofFirst s]
      exact congrArg (known u ++ ·) (known_top top).symm
    · rw [absent, show Entries.get? s.name u = _ from found'] at there
      cases there
  · rcases Entries.place_cases placed' with ⟨absent', rfl⟩ | ⟨element', items', found', rfl⟩
    · rw [found, show Entries.get? s.name u = _ from absent'] at there
      cases there
    · rw [found, show Entries.get? s.name u = _ from found'] at there
      rw [known_replace, known_replace, same, knownValue_behind element (Option.some.inj there)]
      rfl

/-- A section that no setting is read from adds nothing to what is known. -/
theorem known_place_other (other : s.name ∉ topKeys) (placed : s.place t = some t') : known t' = known t := by
  rcases Entries.place_cases placed with ⟨absent, rfl⟩ | ⟨element, items, found, rfl⟩
  · rw [known_append, known_other other, List.append_nil]
  · rw [known_replace, Entries.replace_absent (mt (keys_known t s.name) other)]

theorem known_places : ∀ {sections : List Section} {t t' u u' : Entries}, known t = known u →
    sections.foldlM (fun t s => s.place t) t = some t' →
    ((sections.filter (·.name ∈ topKeys)).map Section.withoutNotes).foldlM (fun t s => s.place t) u = some u' →
    known t' = known u'
  | [], t, t', u, u', same, placed, placed' => by
    obtain rfl := Option.some.inj placed
    obtain rfl := Option.some.inj placed'
    exact same
  | s :: sections, t, t', u, u', same, placed, placed' => by
    rw [List.foldlM_cons] at placed
    obtain ⟨t₁, first, rest⟩ := Option.bind_eq_some_iff.mp placed
    by_cases top : s.name ∈ topKeys
    · rw [List.filter_cons, if_pos (decide_eq_true top), List.map_cons, List.foldlM_cons] at placed'
      obtain ⟨u₁, first', rest'⟩ := Option.bind_eq_some_iff.mp placed'
      exact known_places (known_place top same first first') rest rest'
    · rw [List.filter_cons, if_neg (by simpa using top)] at placed'
      exact known_places ((known_place_other top first).trans same) rest placed'

end

/-- A document with notes is read, and it gives the settings that it gives without them. -/
theorem ofToml_withoutNotes {d : Toml.Document} (wellFormed : d.WellFormed) :
    (∃ t, Toml.read d.text = some t) ∧ (∃ t, Toml.read d.withoutNotes.text = some t) ∧
      ofToml d.text = ofToml d.withoutNotes.text := by
  obtain ⟨t, placed, read⟩ := wellFormed.read_text
  obtain ⟨u, placed', read'⟩ := wellFormed.withoutNotes.read_text
  have top : tableOf d.withoutNotes.top = (tableOf d.top).only topKeys := tableOf_filter topKeys d.top
  have same : known (tableOf d.top) = known (tableOf d.withoutNotes.top) := by rw [top, known_only]
  exact ⟨⟨t, read⟩, ⟨u, read'⟩, ofToml_congr read read' (known_places same placed placed')⟩

end Settings

end FieldClock
