import FieldClock.Proofs.Settings.Notes
import FieldClock.Proofs.Settings.RoundTrip

/-!
# Documents that leave settings out

Lines may be left out of the document of settings, at the top, in the layout and in each target. What is left out has its
default, at the level where it is left out: of a layout that is kept each register has its own, and devices that are kept
replace the default ones. Notes may be put in what is left.
-/

namespace FieldClock

open Toml (Block Entries Item Value lineEntries)

/-- Which keys of a document are kept: at the top, in the layout, and in each device. -/
structure Kept where
  top : String → Bool
  layout : String → Bool
  device : Nat → String → Bool

/-- All keys are kept. -/
def Kept.all : Kept := ⟨fun _ => true, fun _ => true, fun _ _ => true⟩

/-! ### The settings -/

/-- A layout of which registers are left out. -/
def RegisterMap.overlay (kept : String → Bool) (m : RegisterMap) : RegisterMap where
  readAddress := if kept "read_address" then m.readAddress else 3
  readCount := if kept "read_count" then m.readCount else 3
  writeEpochAddress := if kept "write_epoch_address" then m.writeEpochAddress else 290
  writeEpochCount := if kept "write_epoch_count" then m.writeEpochCount else 2
  writeMsEnabled := if kept "write_ms_enabled" then m.writeMsEnabled else false
  writeMsAddress := if kept "write_ms_address" then m.writeMsAddress else 292

/-- A target whose port or unit is left out. -/
def Target.overlay (kept : String → Bool) (t : Target) : Target where
  host := t.host
  port := if kept "port" then t.port else 502
  unitId := if kept "unit_id" then t.unitId else 1

/-- The defaults, overlaid with what is kept of settings. -/
def Settings.overlay (k : Kept) (s : Settings) : Settings where
  timeout := if k.top "timeout" then s.timeout else standard.timeout
  settleDelay := if k.top "settle_delay" then s.settleDelay else standard.settleDelay
  applyUnitId := if k.top "apply_unit_id" then s.applyUnitId else standard.applyUnitId
  registers := if k.top "registers" then s.registers.overlay k.layout else standard.registers
  devices := if k.top "devices" then s.devices.mapIdx fun i t => t.overlay (k.device i) else standard.devices

/-! ### The document -/

/-- The lines of a target whose port or unit is left out. -/
def Target.linesKept (kept : String → Bool) (t : Target) : List (String × Item) :=
  t.lines.filter fun line => line.1 = "host" || kept line.1

/-- The lines of all targets without what is left out. -/
def Settings.deviceLinesKept (k : Kept) (s : Settings) : List (List (String × Item)) :=
  s.devices.mapIdx fun i t => t.linesKept (k.device i)

/-- The blocks of settings without what is left out. -/
def Settings.blocksKept (k : Kept) (s : Settings) : List Block :=
  ⟨.document, s.lines.filter (k.top ·.1)⟩ ::
    ((if k.top "registers" then [⟨.table "registers", s.registers.lines.filter (k.layout ·.1)⟩] else []) ++
      if k.top "devices" then (s.deviceLinesKept k).map fun lines => ⟨.element "devices", lines⟩ else [])

/-! ### A choice between records is one in each field -/

section
variable {c : Prop} [Decidable c]

theorem ite_ok {ε α : Type} (a b : α) : (if c then Except.ok a else Except.ok b : Except ε α) = .ok (if c then a else b) :=
  (apply_ite _ c a b).symm

theorem RegisterMap.ite_eq (m n : RegisterMap) :
    (if c then m else n) =
      { readAddress := if c then m.readAddress else n.readAddress
        readCount := if c then m.readCount else n.readCount
        writeEpochAddress := if c then m.writeEpochAddress else n.writeEpochAddress
        writeEpochCount := if c then m.writeEpochCount else n.writeEpochCount
        writeMsEnabled := if c then m.writeMsEnabled else n.writeMsEnabled
        writeMsAddress := if c then m.writeMsAddress else n.writeMsAddress } := by
  split <;> rfl

theorem Settings.TargetFields.ite_eq (t u : TargetFields) :
    (if c then t else u) =
      { host := if c then t.host else u.host
        port := if c then t.port else u.port
        unitId := if c then t.unitId else u.unitId } := by
  split <;> rfl

theorem Settings.ite_eq (s t : Settings) :
    (if c then s else t) =
      { timeout := if c then s.timeout else t.timeout
        settleDelay := if c then s.settleDelay else t.settleDelay
        applyUnitId := if c then s.applyUnitId else t.applyUnitId
        registers := if c then s.registers else t.registers
        devices := if c then s.devices else t.devices } := by
  split <;> rfl

end

/-! ### Reading what is kept -/

namespace Settings

theorem readLayout_kept (kept : String → Bool) (m : RegisterMap) :
    readLayout (.table .header (lineEntries (m.lines.filter (kept ·.1)))) = .ok (m.overlay kept) := by
  simp only [readLayout, lineEntries, List.foldlM_map, List.foldlM_filter, RegisterMap.lines, Item.value, List.foldlM_cons,
    List.foldlM_nil, setRegister, readWord_integer, readBoolean, ↓reduceIte, String.reduceEq]
  -- Each line now sets its field or leaves the default there, so the choices go into the fields.
  simp only [pure, Except.pure, bind, Except.bind, ite_ok, RegisterMap.ite_eq, ite_self]
  rfl

theorem readTarget_kept (kept : String → Bool) (t : Target) :
    readTarget (.table .header (lineEntries (t.linesKept kept))) = .ok (t.overlay kept) := by
  simp only [readTarget, lineEntries, Target.linesKept, List.foldlM_map, List.foldlM_filter, Target.lines, Item.value,
    List.foldlM_cons, List.foldlM_nil, setTarget, readText, readWord_integer, readByte_integer, ↓reduceIte, String.reduceEq,
    Bool.or_eq_true, decide_eq_true_eq, true_or, false_or]
  simp only [pure, Except.pure, bind, Except.bind, ite_ok, TargetFields.ite_eq, ite_self]
  rfl

theorem readTargets_kept (k : Kept) (s : Settings) :
    readTargets (.array true ((s.deviceLinesKept k).map fun lines => .table .header (lineEntries lines))) =
      .ok (s.devices.mapIdx fun i t => t.overlay (k.device i)) := by
  rw [readTargets, deviceLinesKept]
  generalize k.device = kept
  induction s.devices generalizing kept with
  | nil => rfl
  | cons t targets ih =>
    rw [List.mapIdx_cons, List.mapIdx_cons, List.map_cons, List.mapM_cons, readTarget_kept, ih fun i => kept (i + 1)]
    rfl

/-- The entry of the layout without what is left out. -/
def layoutEntryKept (k : Kept) (s : Settings) : String × Value :=
  ("registers", .table .header (lineEntries (s.registers.lines.filter (k.layout ·.1))))

/-- The entry of the targets without what is left out, if there are any. -/
def deviceEntriesKept (k : Kept) (s : Settings) : Entries :=
  if s.devices = [] then []
  else [("devices", .array true ((s.deviceLinesKept k).map fun lines => .table .header (lineEntries lines)))]

/-- The entries of settings without what is left out. -/
def entriesKept (k : Kept) (s : Settings) : Entries :=
  List.filter (k.top ·.1) (lineEntries s.lines ++ s.layoutEntryKept k :: s.deviceEntriesKept k)

theorem ofEntries_kept (k : Kept) (s : Settings) : ofEntries (s.entriesKept k) = .ok (s.overlay k) := by
  have layout := readLayout_kept k.layout s.registers
  have filled := readTargets_kept k s
  have empty : readTargets (.array false []) = .ok [] := rfl
  unfold entriesKept lines layoutEntryKept deviceEntriesKept
  generalize Value.table .header (lineEntries (s.registers.lines.filter _)) = registers at layout ⊢
  generalize Value.array true _ = devices at filled ⊢
  by_cases none : s.devices = []
  · simp only [if_pos none, ofEntries, lineEntries, Item.value, List.map_cons, List.map_nil, List.cons_append,
      List.nil_append, List.foldlM_filter, List.foldlM_cons, List.foldlM_nil, set, readDuration_text, readBoolean, layout,
      empty, ↓reduceIte, String.reduceEq]
    simp only [pure, Except.pure, bind, Except.bind, ite_ok, ite_eq, ite_self]
    rw [overlay, none]
    rfl
  · simp only [if_neg none, ofEntries, lineEntries, Item.value, List.map_cons, List.map_nil, List.cons_append,
      List.nil_append, List.foldlM_filter, List.foldlM_cons, List.foldlM_nil, set, readDuration_text, readBoolean, layout,
      filled, ↓reduceIte, String.reduceEq]
    simp only [pure, Except.pure, bind, Except.bind, ite_ok, ite_eq, ite_self]
    rfl

end Settings

/-! ### Reading the document -/

theorem Toml.Block.Readable.filter {heading : Toml.Heading} {lines : List (String × Item)}
    (readable : Block.Readable ⟨heading, lines⟩) (p : String × Item → Bool) : Block.Readable ⟨heading, lines.filter p⟩ where
  heading := readable.heading
  keys key listed := readable.keys key ((List.filter_sublist.map _).subset listed)
  items line listed := readable.items line (List.mem_filter.mp listed).1

/-- Blocks that may be left out add what they add if they are kept. -/
theorem Toml.Extends.optional {c : Prop} [Decidable c] {blocks : List Block} {before more : Entries}
    (whole : Toml.Extends (blocks.flatMap Block.statements) before (before ++ more)) :
    Toml.Extends ((if c then blocks else []).flatMap Block.statements) before (before ++ if c then more else []) := by
  split
  · exact whole
  · rw [List.append_nil]
    exact nil

theorem nodup_keys_filter {lines : List (String × Item)} {keys : List String} (listed : lines.map (·.1) = keys)
    (distinct : keys.Nodup) (p : String × Item → Bool) : ((lines.filter p).map (·.1)).Nodup :=
  (listed ▸ distinct).sublist (List.filter_sublist.map _)

namespace Settings

theorem readable_blocksKept (k : Kept) (s : Settings) : ∀ b ∈ s.blocksKept k, b.Readable := by
  have layout : ∀ b ∈ (if k.top "registers" then
      [⟨.table "registers", s.registers.lines.filter (k.layout ·.1)⟩] else [] : List Block), b.Readable := by
    split
    · exact List.forall_mem_singleton.mpr ((readable_registers s.registers).filter _)
    · exact nofun
  have devices : ∀ b ∈ (if k.top "devices" then
      (s.deviceLinesKept k).map fun lines => ⟨.element "devices", lines⟩ else [] : List Block), b.Readable := by
    split
    · refine List.forall_mem_map.mpr fun lines listed => ?_
      obtain ⟨i, inside, rfl⟩ := List.mem_mapIdx.mp listed
      exact (readable_device s.devices[i]).filter _
    · exact nofun
  rw [blocksKept, List.forall_mem_cons, List.forall_mem_append]
  exact ⟨(readable_document s).filter _, layout, devices⟩

theorem nodup_keys_lines (s : Settings) : (s.lines.map (·.1)).Nodup := by
  rw [keys_lines]
  split <;> decide

theorem nodup_keys_deviceLinesKept (k : Kept) (s : Settings) : ∀ lines ∈ s.deviceLinesKept k, (lines.map (·.1)).Nodup := by
  intro lines listed
  obtain ⟨i, inside, rfl⟩ := List.mem_mapIdx.mp listed
  exact nodup_keys_filter (keys_target s.devices[i]) (by decide) _

theorem entriesKept_eq (k : Kept) (s : Settings) :
    s.entriesKept k = lineEntries (s.lines.filter (k.top ·.1)) ++ (if k.top "registers" then [s.layoutEntryKept k] else []) ++
      if k.top "devices" then s.deviceEntriesKept k else [] := by
  have top : (lineEntries s.lines).filter (k.top ·.1) = lineEntries (s.lines.filter (k.top ·.1)) := List.filter_map
  have layout : k.top (s.layoutEntryKept k).1 = k.top "registers" := rfl
  have devices : (s.deviceEntriesKept k).filter (k.top ·.1) = if k.top "devices" then s.deviceEntriesKept k else [] := by
    unfold deviceEntriesKept
    split <;> simp [List.filter_cons]
  rw [entriesKept, List.filter_append, List.filter_cons, top, layout, devices]
  split <;> simp

/-- Lines with a key that is not at the top have no entry there. -/
theorem absent_kept {s : Settings} {key : String} (absent : key ∉ s.lines.map (·.1)) (k : Kept) :
    key ∉ Entries.keys (lineEntries (s.lines.filter (k.top ·.1))) := by
  rw [Entries.keys_lineEntries]
  exact mt (fun listed => (List.filter_sublist.map _).subset listed) absent

theorem assemble_blocksKept (k : Kept) (s : Settings) :
    Toml.assemble ((s.blocksKept k).flatMap Block.statements) = some (s.entriesKept k) := by
  have layout (t : Entries) (absent : "registers" ∉ t.keys) :
      Toml.Extends ([⟨.table "registers", s.registers.lines.filter (k.layout ·.1)⟩].flatMap Block.statements) t
        (t ++ [s.layoutEntryKept k]) := by
    rw [List.flatMap_singleton]
    exact .table absent (nodup_keys_filter (keys_registers s.registers) (by decide) _)
  have devices (t : Entries) (absent : s.devices ≠ [] → "devices" ∉ t.keys) :
      Toml.Extends (((s.deviceLinesKept k).map fun lines => ⟨.element "devices", lines⟩).flatMap Block.statements) t
        (t ++ s.deviceEntriesKept k) := by
    unfold deviceEntriesKept
    by_cases none : s.devices = []
    · rw [deviceLinesKept, none, if_pos rfl, List.append_nil]
      exact .nil
    · rw [if_neg none, List.flatMap_map]
      exact .elements (absent none) (by simpa [deviceLinesKept] using none) (nodup_keys_deviceLinesKept k s)
  rw [entriesKept_eq, blocksKept, List.flatMap_cons, List.flatMap_append]
  refine ((layout _ ?_).optional.append (devices _ ?_).optional).assemble (nodup_keys_filter rfl (nodup_keys_lines s) _)
  · refine absent_kept ?_ k
    rw [keys_lines]
    split <;> decide
  · intro some
    rw [Entries.keys_append, List.mem_append]
    rintro (top | layout)
    · exact absent_kept (by simp [keys_lines, some]) k top
    · split at layout
      · simp [Entries.keys, layoutEntryKept] at layout
      · cases layout

theorem read_blocksKept (k : Kept) (s : Settings) : Toml.read (Toml.write (s.blocksKept k)) = some (s.entriesKept k) := by
  rw [Toml.read, Toml.readStatements_blocks (s.readable_blocksKept k)]
  exact s.assemble_blocksKept k

/-- Where everything is kept, the whole document is. -/
theorem blocksKept_all (s : Settings) : s.blocksKept .all = s.blocks := by
  have lines (t : Target) : t.linesKept (fun _ => true) = t.lines := List.filter_eq_self.mpr fun _ _ => Bool.or_true _
  have devices : (s.devices.mapIdx fun _ t => t.lines) = s.devices.map Target.lines := by
    apply List.ext_getElem <;> simp
  simp [Kept.all, blocksKept, blocks, deviceLinesKept, lines, devices]

theorem ofToml_blocksKept (k : Kept) (s : Settings) :
    ofToml (Toml.write (s.blocksKept k)) = match (s.overlay k).defect? with
      | none => .ok (s.overlay k)
      | some defect => .error (.invalid defect) := by
  rw [ofToml, read_blocksKept]
  simp only [ofEntries_kept, validated]
  cases (s.overlay k).defect? <;> rfl

/-- What is left of the document of settings is read as the defaults overlaid with it, unless this has a defect, which is then
    found; if all is left, it is the whole document. With notes put in it, lines or sections anywhere, a document is still
    read, and it gives the same. Any documents that differ in other keys than those of settings are read alike. -/
theorem ofToml_overlays :
    (∀ (k : Kept) (s : Settings),
      ofToml (Toml.write (s.blocksKept k)) = match (s.overlay k).defect? with
        | none => .ok (s.overlay k)
        | some defect => .error (.invalid defect)) ∧
    (∀ s : Settings, Toml.write (s.blocksKept .all) = s.toToml) ∧
    (∀ d : Toml.Document, d.WellFormed →
      (∃ t, Toml.read d.text = some t) ∧ ofToml d.text = ofToml d.withoutNotes.text ∧
        ∀ (k : Kept) (s : Settings), d.withoutNotes.text = Toml.write (s.blocksKept k) →
          ofToml d.text = match (s.overlay k).defect? with
            | none => .ok (s.overlay k)
            | some defect => .error (.invalid defect)) ∧
    ∀ (text text' : String) (t u : Entries), Toml.read text = some t → Toml.read text' = some u → known t = known u →
      ofToml text = ofToml text' := by
  refine ⟨ofToml_blocksKept, fun s => congrArg Toml.write s.blocksKept_all, ?_, fun _ _ _ _ => ofToml_congr⟩
  intro d wellFormed
  obtain ⟨read, -, same⟩ := ofToml_withoutNotes wellFormed
  refine ⟨read, same, fun k s left => ?_⟩
  rw [same, left]
  exact ofToml_blocksKept k s

/-- A document with notes in every place. -/
def annotated : String :=
  "apply_unit_id = true\nby = 'me'\n[registers]\nread_count = 4\nin.lab = 1\n[[devices]]\nhost = 'x'\nnote = []\n"

/-- The entries of a document with notes in every place. -/
def annotatedEntries : Entries := [
  ("apply_unit_id", .boolean true),
  ("by", .text "me"),
  ("registers", .table .header [("read_count", .integer 4), ("in", .table .dotted [("lab", .integer 1)])]),
  ("devices", .array true [.table .header [("host", .text "x"), ("note", .array false [])]])]

/-- The settings that a document with notes was written from. -/
def unannotated : Settings :=
  { standard with
    timeout := standard.settleDelay, applyUnitId := true, registers := { readCount := 4 }, devices := [⟨"x", 1502, 7⟩] }

/-- What a document with notes keeps of its settings. -/
def keptOfUnannotated : Kept where
  top key := key ≠ "timeout" && key ≠ "settle_delay"
  layout key := key = "read_count"
  device _ _ := false

/-- A note on one line: a table, with a comment behind it. -/
def noteOnLine : Toml.Line where
  chars := "by = \x7b name = 'me', at = [1, 2] \x7d # a note\n".toList
  key := "by"
  value := .table .inline [("name", .text "me"), ("at", .array false [.integer 1, .integer 2])]

/-- A document with notes among the lines that are left of its settings, and with sections of notes before and behind. -/
def withNotes : Toml.Document where
  top := [.ofItem ("apply_unit_id", .flag true), noteOnLine]
  sections := [
    .ofItems true "people" [("read_count", .number 9)],
    .ofItems false "registers" [("lab", .number 1), ("read_count", .number 4)],
    .ofItems true "devices" [("host", .text "x"), ("note", .emptyArray)],
    .ofItems true "people" []]

theorem wellFormed_withNotes : withNotes.WellFormed where
  top := by
    have read : ∀ cs, ∃ behind, Toml.statement? (noteOnLine.chars ++ cs) =
        some (.entry [noteOnLine.key] noteOnLine.value, behind) ∧ Toml.endLine? behind = some cs := fun cs => ⟨_, rfl, rfl⟩
    have note : noteOnLine.Readable := Toml.Means.statement (c := 'b') (.inl rfl) read
    exact List.forall_mem_cons.mpr ⟨Toml.Line.readable_ofItem (by decide) trivial, List.forall_mem_singleton.mpr note⟩
  distinct := by decide
  sections := by
    simp only [withNotes, List.forall_mem_cons]
    exact ⟨.ofItems true (by decide) (by decide) (by decide) (by decide),
      .ofItems false (by decide) (by decide) (by decide) (by decide),
      .ofItems true (by decide) (by decide) (by decide) (by decide),
      .ofItems true (by decide) (by decide) (by decide) (by decide), nofun⟩
  apart := by decide
  repeated := by decide

theorem ofToml_overlays_annotated :
    Toml.read annotated = some annotatedEntries ∧
      known annotatedEntries = known (unannotated.entriesKept keptOfUnannotated) ∧
      ofToml annotated = ofToml (Toml.write (unannotated.blocksKept keptOfUnannotated)) ∧
      withNotes.WellFormed ∧ withNotes.withoutNotes.text = Toml.write (unannotated.blocksKept keptOfUnannotated) ∧
      ofToml withNotes.text = ofToml (Toml.write (unannotated.blocksKept keptOfUnannotated)) ∧
      ofToml (Toml.write (unannotated.blocksKept keptOfUnannotated)) =
        .ok { standard with applyUnitId := true, registers := { readCount := 4 }, devices := [⟨"x", 502, 1⟩] } := by
  have read : Toml.read annotated = some annotatedEntries := by rfl
  have same : known annotatedEntries = known (unannotated.entriesKept keptOfUnannotated) := by rfl
  have left : withNotes.withoutNotes.text = Toml.write (unannotated.blocksKept keptOfUnannotated) := by rfl
  obtain ⟨kept, -, noted, alike⟩ := ofToml_overlays
  have plain := kept keptOfUnannotated unannotated
  refine ⟨read, same, alike _ _ _ _ read (read_blocksKept _ _) same, wellFormed_withNotes, left, ?_, ?_⟩
  · exact ((noted withNotes wellFormed_withNotes).2.2 _ _ left).trans plain.symm
  · rw [plain]
    rfl

end Settings

end FieldClock
