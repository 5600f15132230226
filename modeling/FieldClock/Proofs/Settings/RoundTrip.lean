import FieldClock.Proofs.Duration.RoundTrip
import FieldClock.Proofs.Toml.Assembly
import FieldClock.Proofs.Toml.Document
import FieldClock.Settings.Reading
import FieldClock.Settings.Writing

/-!
# Settings are read back from their document

The document of settings is read as blocks, the blocks make its entries, and the entries laid over the defaults leave
nothing of these.
-/

namespace FieldClock

open Toml (Bare Block Entries Item Value lineEntries)

/-! ### Values -/

namespace Settings

theorem readDuration_text (d : Duration) : readDuration (.text d.text) = .ok d := by
  simp only [readDuration, readText, bind, Except.bind, d.read_text]
  rfl

theorem readWord_integer (w : UInt16) : readWord (.integer w.toNat) = .ok w := by
  have fits : (0 : Int) ≤ w.toNat ∧ (w.toNat : Int) < 65536 := by
    have := w.toNat_lt
    omega
  rw [readWord, if_pos fits, Int.toNat_natCast, UInt16.ofNat_toNat]

theorem readByte_integer (b : UInt8) : readByte (.integer b.toNat) = .ok b := by
  have fits : (0 : Int) ≤ b.toNat ∧ (b.toNat : Int) < 256 := by
    have := b.toNat_lt
    omega
  rw [readByte, if_pos fits, Int.toNat_natCast, UInt8.ofNat_toNat]

theorem readLayout_lines (m : RegisterMap) : readLayout (.table .header (lineEntries m.lines)) = .ok m := by
  simp only [readLayout, lineEntries, RegisterMap.lines, Item.value, List.map_cons, List.map_nil, List.foldlM_cons,
    List.foldlM_nil, setRegister, readWord_integer, readBoolean, ↓reduceIte, String.reduceEq]
  rfl

theorem readTarget_lines (t : Target) : readTarget (.table .header (lineEntries t.lines)) = .ok t := by
  simp only [readTarget, lineEntries, Target.lines, Item.value, List.map_cons, List.map_nil, List.foldlM_cons,
    List.foldlM_nil, setTarget, readText, readWord_integer, readByte_integer, ↓reduceIte, String.reduceEq]
  rfl

theorem readTargets_lines (targets : List Target) (open_ : Bool) :
    readTargets (.array open_ (targets.map fun t => .table .header (lineEntries t.lines))) = .ok targets := by
  rw [readTargets]
  induction targets with
  | nil => rfl
  | cons t targets ih =>
    rw [List.map_cons, List.mapM_cons, readTarget_lines, ih]
    rfl

/-! ### Entries -/

/-- The entries of the document of settings. -/
def entries (s : Settings) : Entries :=
  lineEntries s.lines ++ [("registers", .table .header (lineEntries s.registers.lines))] ++
    if s.devices = [] then []
    else [("devices", .array true (s.devices.map fun t => .table .header (lineEntries t.lines)))]

/-- All defaults are replaced. -/
theorem ofEntries_entries (s : Settings) : ofEntries s.entries = .ok s := by
  have layout := readLayout_lines s.registers
  have filled := readTargets_lines s.devices true
  have empty := readTargets_lines s.devices false
  unfold entries lines
  generalize Value.table .header (lineEntries s.registers.lines) = registers at layout ⊢
  generalize Value.array true _ = devices at filled ⊢
  by_cases none : s.devices = []
  · rw [none, List.map_nil, ← none] at empty
    simp only [if_pos none, ofEntries, lineEntries, Item.value, List.map_cons, List.map_nil, List.cons_append,
      List.nil_append, List.foldlM_cons, List.foldlM_nil, set, readDuration_text, readBoolean, layout, empty, ↓reduceIte,
      String.reduceEq]
    rfl
  · simp only [if_neg none, ofEntries, lineEntries, Item.value, List.map_cons, List.map_nil, List.cons_append,
      List.nil_append, List.foldlM_cons, List.foldlM_nil, set, readDuration_text, readBoolean, layout, filled, ↓reduceIte,
      String.reduceEq]
    rfl

/-! ### Blocks -/

theorem keys_registers (m : RegisterMap) : m.lines.map (·.1) = registerKeys := rfl

theorem keys_target (t : Target) : t.lines.map (·.1) = targetKeys := rfl

theorem keys_lines (s : Settings) :
    s.lines.map (·.1) = ["timeout", "settle_delay", "apply_unit_id"] ++ if s.devices = [] then ["devices"] else [] := by
  rw [lines, List.map_append]
  split <;> rfl

theorem fits_of_lt {n : Nat} (small : n < 65536) : (Item.number n).Fits := Nat.le_trans (Nat.le_of_lt small) (by decide)

theorem fits_word (w : UInt16) : (Item.number w.toNat).Fits := fits_of_lt w.toNat_lt

theorem fits_byte (b : UInt8) : (Item.number b.toNat).Fits := fits_of_lt (Nat.lt_trans b.toNat_lt (by decide))

theorem readable_document (s : Settings) : Block.Readable ⟨.document, s.lines⟩ where
  heading := trivial
  keys := by
    show ∀ key ∈ s.lines.map (·.1), _
    rw [keys_lines]
    split <;> decide
  items := by
    simp only [lines, List.forall_mem_append, List.forall_mem_cons]
    refine ⟨⟨trivial, trivial, trivial, nofun⟩, ?_⟩
    split
    · exact List.forall_mem_singleton.mpr trivial
    · exact nofun

theorem readable_registers (m : RegisterMap) : Block.Readable ⟨.table "registers", m.lines⟩ where
  heading := (by decide : Bare "registers")
  keys := by
    show ∀ key ∈ registerKeys, _
    decide
  items := by
    simp only [RegisterMap.lines, List.forall_mem_cons]
    exact ⟨fits_word _, fits_word _, fits_word _, fits_word _, trivial, fits_word _, nofun⟩

theorem readable_device (t : Target) : Block.Readable ⟨.element "devices", t.lines⟩ where
  heading := (by decide : Bare "devices")
  keys := by
    show ∀ key ∈ targetKeys, _
    decide
  items := by
    simp only [Target.lines, List.forall_mem_cons]
    exact ⟨trivial, fits_word _, fits_byte _, nofun⟩

theorem readable_blocks (s : Settings) : ∀ b ∈ s.blocks, b.Readable := by
  simp only [blocks, List.forall_mem_cons, List.forall_mem_map]
  exact ⟨readable_document s, readable_registers s.registers, fun t _ => readable_device t⟩

theorem assemble_blocks (s : Settings) : Toml.assemble (s.blocks.flatMap Block.statements) = some s.entries := by
  have registers (t : Entries) (absent : "registers" ∉ t.keys) :
      Toml.Extends (Block.statements ⟨.table "registers", s.registers.lines⟩) t
        (t ++ [("registers", .table .header (lineEntries s.registers.lines))]) :=
    .table absent (keys_registers s.registers ▸ by decide)
  by_cases none : s.devices = []
  · have written : s.blocks = [⟨.document, s.lines⟩, ⟨.table "registers", s.registers.lines⟩] := by
      rw [blocks, none, List.map_nil]
    rw [written, entries, if_pos none, List.append_nil, List.flatMap_cons, List.flatMap_singleton]
    exact (registers _ (by simp [keys_lines, none])).assemble (by simp [keys_lines, none])
  · have devices (t : Entries) (absent : "devices" ∉ t.keys) :
        Toml.Extends ((s.devices.map Target.lines).flatMap fun lines => Block.statements ⟨.element "devices", lines⟩) t
          (t ++ [("devices", .array true
            ((s.devices.map Target.lines).map fun lines => .table .header (lineEntries lines)))]) :=
      .elements absent (by simpa using none) (List.forall_mem_map.mpr fun t _ => keys_target t ▸ by decide)
    rw [List.flatMap_map, List.map_map] at devices
    rw [blocks, entries, if_neg none, List.flatMap_cons, List.flatMap_cons, List.flatMap_map]
    exact ((registers _ (by simp [keys_lines, none])).append (devices _ (by simp [keys_lines, none]))).assemble
      (by simp [keys_lines, none])

/-- Settings are read back from their document, unless they have a defect, which is then found. -/
theorem ofToml_toToml (s : Settings) :
    ofToml s.toToml = match s.defect? with
      | none => .ok s
      | some defect => .error (.invalid defect) := by
  have read : Toml.read s.toToml = some s.entries := by
    rw [Toml.read, toToml, Toml.readStatements_blocks s.readable_blocks]
    exact s.assemble_blocks
  rw [ofToml, read]
  simp only [ofEntries_entries, validated]
  cases s.defect? <;> rfl

end Settings

end FieldClock
