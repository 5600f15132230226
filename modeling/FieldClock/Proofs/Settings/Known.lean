import FieldClock.Settings.Reading

/-!
# Keys that no setting has

Reading settings sees of a document no more than its entries with the keys of settings: at the top, in the layout and in
each target. What else it holds may be any values under any other keys.
-/

namespace FieldClock

namespace Toml

/-- The entries with one of these keys. -/
def Entries.only (keys : List String) (t : Entries) : Entries := t.filter (·.1 ∈ keys)

/-- A value without other keys than these, if it is a table. How the table came about is left out. -/
def Value.only (keys : List String) : Value → Value
  | .table _ entries => .table .header (Entries.only keys entries)
  | v => v

/-- A value whose elements have no other keys than these, if it is an array. -/
def Value.eachOnly (keys : List String) : Value → Value
  | .array _ items => .array true (items.map (Value.only keys))
  | v => v

theorem Entries.foldlM_only {α ε : Type} {keys : List String} {f : α → String → Value → Except ε α}
    (skips : ∀ a key v, key ∉ keys → f a key v = .ok a) (t : Entries) (a : α) :
    (t.only keys).foldlM (fun a e => f a e.1 e.2) a = t.foldlM (fun a e => f a e.1 e.2) a := by
  rw [Entries.only, List.foldlM_filter]
  congr 1
  funext a e
  split
  · rfl
  · rename_i other
    exact (skips a e.1 e.2 (by simpa using other)).symm

end Toml

open Toml (Entries Value)

namespace Settings

/-- The keys at the top of a document. -/
def topKeys : List String := ["timeout", "settle_delay", "apply_unit_id", "registers", "devices"]

/-- An entry without the keys that no setting has. -/
def knownEntry (e : String × Value) : String × Value :=
  (e.1, if e.1 = "registers" then e.2.only registerKeys else if e.1 = "devices" then e.2.eachOnly targetKeys else e.2)

/-- What a document says about settings. -/
def known (t : Entries) : Entries := (t.only topKeys).map knownEntry

variable {key : String} {v : Value}

theorem setRegister_other (m : RegisterMap) (other : key ∉ registerKeys) : setRegister m key v = .ok m := by
  simp_all [registerKeys, setRegister, pure, Except.pure]

theorem setTarget_other (t : TargetFields) (other : key ∉ targetKeys) : setTarget t key v = .ok t := by
  simp_all [targetKeys, setTarget, pure, Except.pure]

theorem set_other (s : Settings) (other : key ∉ topKeys) : s.set key v = .ok s := by
  simp_all [topKeys, set, pure, Except.pure]

theorem readLayout_only (v : Value) : readLayout (v.only registerKeys) = readLayout v := by
  cases v with
  | table origin entries => exact Entries.foldlM_only (f := setRegister) (fun m _ _ => setRegister_other m) entries {}
  | _ => rfl

theorem readTarget_only (v : Value) : readTarget (v.only targetKeys) = readTarget v := by
  cases v with
  | table origin entries =>
    simp only [Value.only, readTarget, Entries.foldlM_only (f := setTarget) (fun t _ _ => setTarget_other t) entries]
  | _ => rfl

theorem readTargets_eachOnly (v : Value) : readTargets (v.eachOnly targetKeys) = readTargets v := by
  cases v with
  | array open_ items => simp only [Value.eachOnly, readTargets, List.mapM_map, Function.comp_def, readTarget_only]
  | _ => rfl

theorem set_knownEntry (s : Settings) (e : String × Value) : s.set (knownEntry e).1 (knownEntry e).2 = s.set e.1 e.2 := by
  obtain ⟨key, v⟩ := e
  unfold knownEntry set
  by_cases layout : key = "registers"
  · simp [layout, readLayout_only]
  · by_cases targets : key = "devices"
    · simp [targets, readTargets_eachOnly]
    · simp [layout, targets]

/-- Entries without a setting change nothing. -/
theorem ofEntries_known (t : Entries) : ofEntries (known t) = ofEntries t := by
  simp only [ofEntries, known, List.foldlM_map, set_knownEntry]
  exact Entries.foldlM_only (f := set) (fun s _ _ => set_other s) t .standard

/-- Documents that say the same about settings are read alike. -/
theorem ofToml_congr {text text' : String} {t u : Entries} (read : Toml.read text = some t)
    (read' : Toml.read text' = some u) (same : known t = known u) : ofToml text = ofToml text' := by
  have alike : ofEntries t = ofEntries u := by rw [← ofEntries_known t, same, ofEntries_known]
  simp only [ofToml, read, read', alike]

end Settings

end FieldClock
