import FieldClock.Toml.Writing

/-!
# Blocks make tables

What the statements of written blocks make of a document. Each block is taken by what it adds to the document that would
end before it, so blocks can be put together one after the other.
-/

namespace FieldClock.Toml

/-- The entries that lines write. -/
def lineEntries (lines : List (String × Item)) : Entries := lines.map fun line => (line.1, line.2.value)

/-- The keys of a table. -/
def Entries.keys (t : Entries) : List String := t.map (·.1)

/-- The statements that define the entries of a table. -/
def Entries.statements (t : Entries) : List Statement := t.map fun e => .entry [e.1] e.2

theorem Block.statements_eq (heading : Heading) (lines : List (String × Item)) :
    Block.statements ⟨heading, lines⟩ = heading.statements ++ (lineEntries lines).statements := by
  rw [Block.statements, Entries.statements, lineEntries, List.map_map]
  rfl

/-! ### Tables -/

namespace Entries

variable {key : String} {v w : Value} {t : Entries}

@[simp]
theorem keys_append {u : Entries} : keys (t ++ u) = t.keys ++ keys u := List.map_append

@[simp]
theorem keys_singleton : keys [(key, v)] = [key] := rfl

@[simp]
theorem keys_lineEntries {lines : List (String × Item)} : keys (lineEntries lines) = lines.map (·.1) := by
  simp [keys, lineEntries]

theorem ne_of_absent (absent : key ∉ t.keys) : ∀ e ∈ t, e.1 ≠ key := by
  intro e present same
  exact absent (same ▸ List.mem_map_of_mem present)

theorem find?_absent (absent : key ∉ t.keys) : t.find? (·.1 = key) = none := by
  rw [List.find?_eq_none]
  intro e present same
  exact ne_of_absent absent e present (of_decide_eq_true same)

theorem get?_absent (absent : key ∉ t.keys) : t.get? key = none := by
  rw [get?, find?_absent absent]
  rfl

theorem get?_eq_none_iff : t.get? key = none ↔ key ∉ t.keys := by
  refine ⟨fun absent present => ?_, get?_absent⟩
  obtain ⟨e, listed, rfl⟩ := List.mem_map.mp present
  rw [get?, Option.map_eq_none_iff, List.find?_eq_none] at absent
  exact absent e listed (decide_eq_true rfl)

theorem get?_last (absent : key ∉ t.keys) : get? key (t ++ [(key, v)]) = some v := by
  simp [get?, List.find?_append, find?_absent absent]

theorem replace_absent (absent : key ∉ t.keys) : t.replace key w = t := by
  have same : ∀ e ∈ t, (if e.1 = key then (key, w) else e) = e := fun e present => if_neg (ne_of_absent absent e present)
  rw [replace, List.map_congr_left same, List.map_id']

theorem replace_last (absent : key ∉ t.keys) : replace key w (t ++ [(key, v)]) = t ++ [(key, w)] := by
  rw [replace, List.map_append, ← replace, replace_absent absent]
  simp

theorem insertNew_absent (absent : key ∉ t.keys) : insertNew key v t = some (t ++ [(key, v)]) := by
  rw [insertNew, get?_absent absent]

theorem define_single : define [key] v t = insertNew key v t := by
  show Option.map (·.2) (Option.map ((), ·) (insertNew key v t)) = _
  rw [Option.map_map]
  exact Option.map_id'

end Entries

/-! ### Places -/

/-- The statement that opens a table with a name, or one more element of the array with it. -/
def opening (isElement : Bool) (name : String) : Statement := if isElement then .element [name] else .header [name]

/-- The value under a name that a first table is put in. -/
def Value.ofFirst (isElement : Bool) (inner : Entries) : Value :=
  if isElement then .array true [.table .header inner] else .table .header inner

namespace Entries

variable {isElement : Bool} {name : String} {inner t t' : Entries} {items : List Value}

/-- Puts a finished table in its place: under its name, or behind the elements there. -/
def place (t : Entries) (isElement : Bool) (name : String) (inner : Entries) : Option Entries :=
  if isElement then (Assembly.pushElement inner name t).map (·.2) else (Assembly.putTable inner name t).map (·.2)

theorem place_new (absent : get? name t = none) :
    t.place isElement name inner = some (t ++ [(name, .ofFirst isElement inner)]) := by
  cases isElement with
  | false => simp [place, Assembly.putTable, insertNew, absent, Value.ofFirst]
  | true => simp [place, Assembly.pushElement, absent, Value.ofFirst]

theorem place_behind (found : get? name t = some (.array true items)) :
    t.place true name inner = some (t.replace name (.array true (items ++ [.table .header inner]))) := by
  simp [place, Assembly.pushElement, found]

/-- A table that is put in its place is the first there, or it is put behind elements. -/
theorem place_cases (placed : t.place isElement name inner = some t') :
    (get? name t = none ∧ t' = t ++ [(name, .ofFirst isElement inner)]) ∨
      isElement = true ∧ ∃ items, get? name t = some (.array true items) ∧
        t' = t.replace name (.array true (items ++ [.table .header inner])) := by
  rcases found : get? name t with _ | v
  · rw [place_new found] at placed
    exact .inl ⟨rfl, (Option.some.inj placed).symm⟩
  cases isElement with
  | false => simp [place, Assembly.putTable, insertNew, found] at placed
  | true =>
    simp only [place, Assembly.pushElement, found, if_true] at placed
    split at placed
    · contradiction
    · rename_i items listed
      obtain rfl := Option.some.inj listed
      exact .inr ⟨rfl, items, rfl, (Option.some.inj placed).symm⟩
    · cases placed

end Entries

/-! ### Statements -/

namespace Assembly

variable {a : Assembly} {name : String} {t : Entries} {v : Value}

theorem step_entry (absent : name ∉ a.current.keys) :
    a.step (.entry [name] v) = some { a with current := a.current ++ [(name, v)] } := by
  rw [step, Entries.define_single, Entries.insertNew_absent absent]
  rfl

/-- Entries with keys of their own are added to the table that is put together now. -/
theorem foldlM_entries : ∀ (entries : Entries) {a : Assembly}, (a.current.keys ++ entries.keys).Nodup →
    entries.statements.foldlM step a = some { a with current := a.current ++ entries }
  | [], a, _ => by simp [Entries.statements]
  | e :: entries, a, distinct => by
    have absent : e.1 ∉ a.current.keys := by
      intro present
      exact (List.nodup_append.mp distinct).2.2 _ present _ List.mem_cons_self rfl
    have next := foldlM_entries entries (a := { a with current := a.current ++ [e] })
      (by simpa [Entries.keys] using distinct)
    unfold Entries.statements at next ⊢
    simp only [List.map_cons, List.foldlM_cons, step_entry absent, Option.bind_eq_bind, Option.bind_some, next]
    simp

/-- A table that is opened where it can be put is filled from the start and put there when it is finished. -/
theorem step_opening {isElement : Bool} {inner after : Entries} (finished : a.finish = some t)
    (placed : t.place isElement name inner = some after) :
    ∃ opened, a.step (opening isElement name) = some opened ∧ opened.current = [] ∧
      finish { opened with current := inner } = some after := by
  cases isElement with
  | false =>
    have absent : Entries.get? name t = none := by
      rcases Entries.place_cases placed with ⟨absent, -⟩ | ⟨element, -⟩
      · exact absent
      · cases element
    refine ⟨{ root := t, path := [name] }, ?_, rfl, placed⟩
    have room : inParent [name] takeImplied t = takeImplied name t := rfl
    rw [show opening false name = .header [name] from rfl, step, finished]
    simp [room, takeImplied, absent]
  | true =>
    have room : inParent [name] openElement t = openElement name t := rfl
    rw [show opening true name = .element [name] from rfl, step, finished]
    rcases Entries.place_cases placed with ⟨absent, rfl⟩ | ⟨-, items, found, rfl⟩
    -- An element that is the first in its place is put behind none there.
    · refine ⟨{ root := t ++ [(name, .array true [])], path := [name], isElement := true }, ?_, rfl, ?_⟩
      · simp [room, openElement, absent]
      · have empty := Entries.get?_last (v := .array true []) (Entries.get?_eq_none_iff.mp absent)
        exact (Entries.place_behind empty).trans (congrArg some (Entries.replace_last (Entries.get?_eq_none_iff.mp absent)))
    · refine ⟨{ root := t, path := [name], isElement := true }, ?_, rfl, placed⟩
      simp [room, openElement, found]

end Assembly

/-! ### Blocks -/

/-- After a document that would end as the table `before`, statements make one that would end as `after`. -/
def Extends (statements : List Statement) (before after : Entries) : Prop :=
  ∀ a : Assembly, a.finish = some before → ∃ b, statements.foldlM Assembly.step a = some b ∧ b.finish = some after

namespace Extends

variable {before between after : Entries} {first rest : List Statement} {name : String} {lines : List (String × Item)}

theorem nil : Extends [] before before := fun a finished => ⟨a, rfl, finished⟩

theorem append (first_ : Extends first before between) (rest_ : Extends rest between after) :
    Extends (first ++ rest) before after := by
  intro a finished
  obtain ⟨b, ran, finished⟩ := first_ a finished
  obtain ⟨c, ran', finished⟩ := rest_ b finished
  refine ⟨c, ?_, finished⟩
  rw [List.foldlM_append, ran]
  exact ran'

/-- An opening and entries with keys of their own put a table in its place. -/
theorem place {isElement : Bool} {inner : Entries} (distinct : inner.keys.Nodup)
    (placed : before.place isElement name inner = some after) :
    Extends (opening isElement name :: inner.statements) before after := by
  intro a finished
  obtain ⟨opened, opens, empty, closes⟩ := Assembly.step_opening finished placed
  have filled := Assembly.foldlM_entries inner (a := opened) (by simpa [empty, Entries.keys] using distinct)
  refine ⟨_, ?_, closes⟩
  rw [List.foldlM_cons, opens, Option.bind_eq_bind, Option.bind_some, filled, empty, List.nil_append]

theorem table (absent : name ∉ before.keys) (distinct : (lines.map (·.1)).Nodup) :
    Extends (Block.statements ⟨.table name, lines⟩) before (before ++ [(name, .table .header (lineEntries lines))]) := by
  have placed : before.place false name (lineEntries lines) = some _ := Entries.place_new (Entries.get?_absent absent)
  rw [Block.statements_eq]
  exact place (by simpa using distinct) placed

theorem firstElement (absent : name ∉ before.keys) (distinct : (lines.map (·.1)).Nodup) :
    Extends (Block.statements ⟨.element name, lines⟩) before
      (before ++ [(name, .array true [.table .header (lineEntries lines)])]) := by
  have placed : before.place true name (lineEntries lines) = some _ := Entries.place_new (Entries.get?_absent absent)
  rw [Block.statements_eq]
  exact place (by simpa using distinct) placed

theorem nextElement (items : List Value) (absent : name ∉ before.keys) (distinct : (lines.map (·.1)).Nodup) :
    Extends (Block.statements ⟨.element name, lines⟩) (before ++ [(name, .array true items)])
      (before ++ [(name, .array true (items ++ [.table .header (lineEntries lines)]))]) := by
  have placed : Entries.place (before ++ [(name, .array true items)]) true name (lineEntries lines) = some _ :=
    Entries.place_behind (Entries.get?_last absent)
  rw [Entries.replace_last absent] at placed
  rw [Block.statements_eq]
  exact place (by simpa using distinct) placed

/-- Elements with the same name are appended to their array. -/
theorem moreElements (absent : name ∉ before.keys) :
    ∀ (tables : List (List (String × Item))) (items : List Value), (∀ lines ∈ tables, (lines.map (·.1)).Nodup) →
      Extends (tables.flatMap fun lines => Block.statements ⟨.element name, lines⟩)
        (before ++ [(name, .array true items)])
        (before ++ [(name, .array true (items ++ tables.map fun lines => .table .header (lineEntries lines)))])
  | [], items, _ => by simpa using nil
  | lines :: tables, items, distinct => by
    obtain ⟨first, distinct⟩ := List.forall_mem_cons.mp distinct
    have step := nextElement items absent first
    have rest := moreElements absent tables (items ++ [.table .header (lineEntries lines)]) distinct
    rw [List.append_assoc, List.singleton_append] at rest
    exact step.append rest

/-- Elements with the same name make an array. -/
theorem elements {tables : List (List (String × Item))} (absent : name ∉ before.keys) (nonempty : tables ≠ [])
    (distinct : ∀ lines ∈ tables, (lines.map (·.1)).Nodup) :
    Extends (tables.flatMap fun lines => Block.statements ⟨.element name, lines⟩) before
      (before ++ [(name, .array true (tables.map fun lines => .table .header (lineEntries lines)))]) := by
  obtain ⟨lines, tables, rfl⟩ := List.exists_cons_of_ne_nil nonempty
  obtain ⟨first, distinct⟩ := List.forall_mem_cons.mp distinct
  exact (firstElement absent first).append (moreElements absent tables _ distinct)

/-- A document begins with the entries at its top. -/
theorem assembleEntries {top : Entries} (rest_ : Extends rest top after) (distinct : top.keys.Nodup) :
    Toml.assemble (top.statements ++ rest) = some after := by
  have filled := Assembly.foldlM_entries top (a := {}) (by simpa [Entries.keys] using distinct)
  obtain ⟨b, ran, finished⟩ := rest_ { current := top } rfl
  rw [Toml.assemble, List.foldlM_append, filled]
  simp [ran, finished]

/-- A document of blocks begins with lines at the top. -/
theorem assemble (rest_ : Extends rest (lineEntries lines) after) (distinct : (lines.map (·.1)).Nodup) :
    Toml.assemble (Block.statements ⟨.document, lines⟩ ++ rest) = some after := by
  rw [Block.statements_eq]
  exact assembleEntries rest_ (by simpa using distinct)

end Extends

end FieldClock.Toml
