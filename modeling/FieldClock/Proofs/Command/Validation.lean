import FieldClock.Proofs.Command.Deeds
import FieldClock.Proofs.Command.Flags
import FieldClock.Proofs.Settings.Validity

/-!
# Validated settings

A run goes by settings that were found without a defect, both as they were loaded and with the options laid over them. A run
without such settings does nothing but look for them and complain.
-/

namespace FieldClock

theorem Settings.validated_eq_ok_iff {s s' : Settings} : s.validated = .ok s' ↔ s' = s ∧ s.Valid := by
  rw [validated, ← defect?_eq_none_iff]
  rcases s.defect? with _ | defect <;> simp [eq_comm]

/-- The bytes of a file say settings: they are the text of a document whose entries give settings without a defect. -/
def Settings.Says (s : Settings) (bytes : ByteArray) : Prop :=
  ∃ text entries, String.fromUTF8? bytes = some text ∧ Toml.read text = some entries ∧ ofEntries entries = .ok s ∧ s.Valid

theorem Settings.ofToml_eq_ok_iff {text : String} {s : Settings} :
    ofToml text = .ok s ↔ ∃ entries, Toml.read text = some entries ∧ ofEntries entries = .ok s ∧ s.Valid := by
  unfold ofToml
  rcases Toml.read text with _ | entries
  · simp
  simp only [Option.some.injEq, exists_eq_left']
  rcases ofEntries entries with cause | found
  · simp
  simp only [validated_eq_ok_iff, Except.ok.injEq]
  constructor
  · rintro ⟨rfl, valid⟩
    exact ⟨rfl, valid⟩
  · rintro ⟨rfl, valid⟩
    exact ⟨rfl, valid⟩

theorem Settings.ofFile_eq_ok_iff (path : String) {answer : Except FileFault ByteArray} {s : Settings} :
    ofFile path answer = .ok s ↔ ∃ bytes, answer = .ok bytes ∧ s.Says bytes := by
  rcases answer with cause | bytes
  · simp [ofFile]
  simp only [ofFile, Except.ok.injEq, exists_eq_left', Says]
  rcases String.fromUTF8? bytes with _ | text
  · simp
  simp only [Option.some.injEq, exists_and_left, exists_eq_left', ← ofToml_eq_ok_iff]
  rcases ofToml text with cause | found <;> simp

namespace Command

/-! ### Looking for settings -/

/-- What a run looks at for its settings, and what it finds in the file that it takes, if it takes one. -/
inductive Looks {κ : Type} (options : Options) : List (Deed κ) → Option (Except FileFault ByteArray) → Prop
  | given {path : String} {answer : Except FileFault ByteArray} (asked : options.config = some path) :
    Looks options [.contents path answer] (some answer)
  | unset (unasked : options.config = none) : Looks options [.lookUp settingsVariable none] none
  | absent {path : String} (unasked : options.config = none) :
    Looks options [.lookUp settingsVariable (some path), .isThere path false] none
  | named {path : String} {answer : Except FileFault ByteArray} (unasked : options.config = none) :
    Looks options [.lookUp settingsVariable (some path), .isThere path true, .contents path answer] (some answer)

/-- A deed that reaches a device or the output for reports. -/
def Deed.Outward {κ : Type} : Deed κ → Prop
  | .act _ => True
  | .print _ _ => True
  | .flush _ => True
  | _ => False

theorem Looks.not_outward {κ : Type} {options : Options} {looked : List (Deed κ)} {found : Option (Except FileFault ByteArray)}
    (looks : Looks options looked found) : ∀ deed ∈ looked, ¬ deed.Outward := by
  cases looks <;> simp [Deed.Outward]

/-- The settings that are loaded: those that the file says, or the defaults without a file. -/
def Loaded : Option (Except FileFault ByteArray) → Settings → Prop
  | none, s => s = .standard
  | some answer, s => ∃ bytes, answer = .ok bytes ∧ s.Says bytes

/-- Settings are others with options laid over them. -/
structure Options.Overlays (o : Options) (loaded s : Settings) : Prop where
  devices : s.devices = if o.devices = [] then loaded.devices else o.devices
  writeMs : s.registers = { loaded.registers with writeMsEnabled := loaded.registers.writeMsEnabled || o.writeMs }
  applyUnitId : s.applyUnitId = (loaded.applyUnitId || o.applyUnitId)
  timeout : s.timeout = loaded.timeout
  settleDelay : s.settleDelay = loaded.settleDelay

theorem Options.overlays_iff {o : Options} {loaded s : Settings} : o.Overlays loaded s ↔ o.overlay loaded = s := by
  constructor
  · rintro ⟨devices, writeMs, applyUnitId, timeout, settleDelay⟩
    rw [overlay, ← devices, ← writeMs, ← applyUnitId, ← timeout, ← settleDelay]
  · rintro rfl
    exact ⟨rfl, rfl, rfl, rfl, rfl⟩

theorem Options.settle_eq_ok_iff {o : Options} {loaded s : Settings} :
    o.settle loaded = .ok s ↔ o.Overlays loaded s ∧ s.Valid := by
  rw [overlays_iff, ← Settings.defect?_eq_none_iff]
  rcases found : (o.overlay loaded).defect? with _ | defect
  · have settled : o.settle loaded = .ok (o.overlay loaded) := by simp only [settle, found]
    rw [settled, Except.ok.injEq]
    refine (and_iff_left_of_imp ?_).symm
    rintro rfl
    exact found
  · have unsettled : o.settle loaded = .error ⟨"Invalid configuration", [defect.message]⟩ := by simp only [settle, found]
    rw [unsettled]
    refine iff_of_false (by simp) ?_
    rintro ⟨rfl, none⟩
    rw [found] at none
    cases none

/-! ### Runs -/

/-- The format that options ask for. -/
def Options.chosenFormat (o : Options) : Format := o.format.getD .text

/-- How a run ends that has looked for its settings, with its exit code and all its deeds. -/
inductive Ends {σ κ : Type} (world : Surroundings (StateM σ) κ) (options : Options) (looked : List (Deed κ))
    (found : Option (Except FileFault ByteArray)) (s : σ) : UInt32 → List (Deed κ) → Prop
  | done {loaded settings : Settings} {more : List (Deed κ)} {s' : σ} (isLoaded : Loaded found loaded)
      (overlays : options.Overlays loaded settings) (valid : settings.Valid)
      (synchronised : (synchronise world.noting settings options.simulated options.chosenFormat).run ([], s) =
        (.ok (), more, s')) :
    Ends world options looked found s exitDone (looked ++ more)
  | unwritten {loaded settings : Settings} {more : List (Deed κ)} {s' : σ} {fault : WriteFault} {text : String}
      (isLoaded : Loaded found loaded) (overlays : options.Overlays loaded settings) (valid : settings.Valid)
      (synchronised : (synchronise world.noting settings options.simulated options.chosenFormat).run ([], s) =
        (.error fault, more, s')) :
    Ends world options looked found s exitStopped (looked ++ more ++ [.complain text])
  | refused {text : String}
      (none : ¬ ∃ loaded settings, Loaded found loaded ∧ options.Overlays loaded settings ∧ settings.Valid) :
    Ends world options looked found s exitStopped (looked ++ [.complain text])

section
variable {σ κ : Type} (world : Surroundings (StateM σ) κ)

theorem run_loadFile (name path : String) (deeds : List (Deed κ)) (s : σ) :
    ∃ answer s₁ loaded, (loadFile world.noting name path).run (deeds, s) = (loaded, deeds ++ [.contents path answer], s₁) ∧
      ∀ settings, loaded = .ok settings ↔ Loaded (some answer) settings := by
  rcases read : (world.contents path).run s with ⟨answer, s₁⟩
  have noted : (world.noting.contents path).run (deeds, s) = (answer, deeds ++ [.contents path answer], s₁) := run_noting read
  rw [loadFile, run_bind_of noted]
  refine ⟨answer, s₁, ?_⟩
  rcases file : Settings.ofFile path answer with fault | settings
  · refine ⟨_, rfl, fun settings => ?_⟩
    rw [Loaded, ← Settings.ofFile_eq_ok_iff path, file]
    simp
  · refine ⟨_, rfl, fun settings' => ?_⟩
    rw [Loaded, ← Settings.ofFile_eq_ok_iff path, file]
    simp

theorem exists_looks (options : Options) (s : σ) :
    ∃ loaded looked found s₁, (load world.noting options).run ([], s) = (loaded, looked, s₁) ∧ Looks options looked found ∧
      ∀ settings, loaded = .ok settings ↔ Loaded found settings := by
  have standard : ∀ settings, (.ok .standard : Except Complaint Settings) = .ok settings ↔ Loaded none settings := by
    intro settings
    simp [Loaded, eq_comm]
  unfold load
  rcases asked : options.config with _ | path
  · rcases lookedUp : (world.lookUp settingsVariable).run s with ⟨named, s₁⟩
    have noted : (world.noting.lookUp settingsVariable).run ([], s) = (named, [.lookUp settingsVariable named], s₁) :=
      run_noting lookedUp
    simp only [loadNamed, run_bind_of noted]
    rcases named with _ | path
    · exact ⟨_, _, none, s₁, rfl, .unset asked, standard⟩
    rcases tried : (world.isThere path).run s₁ with ⟨there, s₂⟩
    have noted : (world.noting.isThere path).run ([.lookUp settingsVariable (some path)], s₁) =
        (there, [.lookUp settingsVariable (some path), .isThere path there], s₂) := run_noting tried
    simp only [run_bind_of noted]
    cases there with
    | false => exact ⟨_, _, none, s₂, rfl, .absent asked, standard⟩
    | true =>
      obtain ⟨answer, s₃, loaded, run, told⟩ := run_loadFile world (settingsVariable ++ "=" ++ path) path _ s₂
      exact ⟨loaded, _, some answer, s₃, run, .named asked, told⟩
  · obtain ⟨answer, s₁, loaded, run, told⟩ := run_loadFile world path path [] s
    exact ⟨loaded, _, some answer, s₁, run, .given asked, told⟩

variable {world} in
theorem exists_ends {options : Options} {loaded : Except Complaint Settings} {looked : List (Deed κ)}
    {found : Option (Except FileFault ByteArray)} {s s₁ : σ}
    (load : (load world.noting options).run ([], s) = (loaded, looked, s₁))
    (told : ∀ settings, loaded = .ok settings ↔ Loaded found settings) :
    ∃ code deeds s', (runOptions world.noting options).run ([], s) = (code, deeds, s') ∧
      Ends world options looked found s₁ code deeds := by
  have settled : ∃ effective, (effectiveSettings world.noting options).run ([], s) = (effective, looked, s₁) ∧
      ∀ settings, effective = .ok settings ↔
        ∃ loaded, Loaded found loaded ∧ options.Overlays loaded settings ∧ settings.Valid := by
    rw [effectiveSettings, run_bind_of load]
    rcases loaded with complaint | loaded
    · refine ⟨_, rfl, fun settings => ?_⟩
      simp [← told]
    · refine ⟨_, rfl, fun settings => ?_⟩
      simp [← told, ← Options.settle_eq_ok_iff]
  obtain ⟨effective, settled, accepts⟩ := settled
  rw [runOptions, run_bind_of settled]
  rcases effective with complaint | settings
  · refine ⟨_, _, _, rfl, .refused ?_⟩
    rintro ⟨loaded, settings, accepted⟩
    cases (accepts settings).mpr ⟨loaded, accepted⟩
  · obtain ⟨loaded, isLoaded, overlays, valid⟩ := (accepts settings).mp rfl
    -- Synchronising puts its deeds behind those of looking, whatever these were.
    obtain ⟨-, appends⟩ := (worlds_appending world).synchronise settings options.simulated options.chosenFormat
    obtain ⟨written, more, s₂, synchronised⟩ := appends s₁
    simp only
    rw [← Options.chosenFormat, run_bind_of (synchronised looked)]
    rcases written with fault | _
    · exact ⟨_, _, _, rfl, .unwritten isLoaded overlays valid (synchronised [])⟩
    · exact ⟨_, _, _, rfl, .done isLoaded overlays valid (synchronised [])⟩

end

theorem Ends.accepted {σ κ : Type} {world : Surroundings (StateM σ) κ} {options : Options} {looked deeds : List (Deed κ)}
    {found : Option (Except FileFault ByteArray)} {s : σ} {code : UInt32} (ends : Ends world options looked found s code deeds)
    (looks : Looks options looked found) (outward : code = exitDone ∨ ∃ deed ∈ deeds, deed.Outward) :
    ∃ loaded settings, Loaded found loaded ∧ options.Overlays loaded settings ∧ settings.Valid := by
  cases ends with
  | done isLoaded overlays valid => exact ⟨_, _, isLoaded, overlays, valid⟩
  | unwritten isLoaded overlays valid => exact ⟨_, _, isLoaded, overlays, valid⟩
  | refused none =>
    rcases outward with failed | ⟨deed, done, outward⟩
    · cases failed
    · rcases List.mem_append.mp done with before | last
      · exact absurd outward (looks.not_outward deed before)
      · obtain rfl := List.mem_singleton.mp last
        exact outward.elim

/-- A command line of flags is read, in whatever way each is written, with all its devices in order. A run first looks for its
    settings, in the file of its options, else in the one that the environment names if it is there, else it takes the
    defaults. Only if these were read and are valid, and are valid with the options laid over them too, it goes on to
    synchronise, by the latter. In all other cases there is one complaint behind its looking, and it fails. -/
theorem run_by_valid_settings {σ κ : Type} (world : Surroundings (StateM σ) κ) (s : σ) :
    (∀ flags spelled, List.Forall₂ Flag.Spells flags spelled → Unrepeated flags → Options.ofWords spelled.flatten = .ok {
      config := flags.findSome? Flag.path?
      devices := flags.filterMap Flag.target?
      writeMs := flags.any (·.name = .writeMs)
      applyUnitId := flags.any (·.name = .applyUnitId) }) ∧
    ∀ words options, Options.ofWords words = .ok options → ∃ looked found s₁ code deeds s',
      (run world words).run s = (code, s') ∧ (run world.noting words).run ([], s) = (code, deeds, s') ∧
      Looks options looked found ∧ Ends world options looked found s₁ code deeds ∧
      (code = exitDone ∨ (∃ deed ∈ deeds, deed.Outward) →
        ∃ loaded settings, Loaded found loaded ∧ options.Overlays loaded settings ∧ settings.Valid) := by
  refine ⟨fun flags spelled => Options.ofWords_flags, fun words options asked => ?_⟩
  obtain ⟨loaded, looked, found, s₁, load, looks, told⟩ := exists_looks world options s
  obtain ⟨code, deeds, s', ran, ends⟩ := exists_ends load told
  obtain ⟨noted, same⟩ := (worlds_noting world).run words [] s
  have ran : (run world.noting words).run ([], s) = (code, deeds, s') := by
    rw [run, asked]
    exact ran
  obtain ⟨rfl, rest⟩ := Prod.mk.inj (same.symm.trans ran)
  obtain ⟨rfl, rfl⟩ := Prod.mk.inj rest
  exact ⟨looked, found, s₁, _, _, _, rfl, ran, looks, ends, ends.accepted looks⟩

/-- Surroundings without files, variables, network and output. -/
def bareWorld : Surroundings (StateM Unit) Unit where
  contents _ s := (.error .notFound, s)
  isThere _ s := (false, s)
  lookUp _ s := (none, s)
  clock := ⟨fun s => (⟨1767225600, 0, by decide, by decide⟩, s), fun _ s => ((), s)⟩
  wire := ⟨fun _ s => (.error .unreachable, s), fun _ _ s => (.error .silent, s), fun _ _ s => (.error .silent, s),
    fun _ s => ((), s)⟩
  print _ s := (.ok (), s)
  complain _ s := ((), s)
  flush s := (.ok (), s)

/-- The file that the options name is missing. -/
theorem run_by_valid_settings_missing :
    Unrepeated [.config "rtc.toml" (by decide), .writeMs] ∧
    Options.ofWords ["-c", "rtc.toml", "--write-ms"] = .ok { config := some "rtc.toml", writeMs := true } ∧
      ((run bareWorld ["-c", "rtc.toml", "--write-ms"]).run ()).1 = exitStopped := by
  have unrepeated : Unrepeated [.config "rtc.toml" (by decide), .writeMs] := by simp [Unrepeated]
  have plain : Plain "rtc.toml" := fun c rest same => absurd (List.cons.inj same).1 (by decide)
  have spells : List.Forall₂ Flag.Spells [.config "rtc.toml" (by decide), .writeMs] [["-c", "rtc.toml"], ["--write-ms"]] :=
    .cons (.letterApart rfl rfl plain) (.cons (.long .writeMs) .nil)
  have asked := (run_by_valid_settings bareWorld ()).1 _ _ spells unrepeated
  obtain ⟨looked, found, s, code, deeds, s', ran, noted, looks, ends, -⟩ := (run_by_valid_settings bareWorld ()).2 _ _ asked
  refine ⟨unrepeated, asked, ?_⟩
  have missing : deeds.head? = some (.contents "rtc.toml" (.error .notFound)) := by
    have same : deeds = _ := (congrArg (fun result => result.2.1) noted).symm
    rw [same]
    rfl
  have unread : ∀ loaded, ¬ Loaded found loaded := by
    intro loaded isLoaded
    cases looks with
    | @given path answer =>
      have answered : answer = .error .notFound := by
        cases ends <;> exact (Deed.contents.inj (Option.some.inj missing)).2
      obtain ⟨bytes, ok, -⟩ := isLoaded
      rw [answered] at ok
      cases ok
    | unset unasked => cases unasked
    | absent unasked => cases unasked
    | named unasked => cases unasked
  rw [show (run bareWorld ["-c", "rtc.toml", "--write-ms"]).run () = (code, s') from ran]
  cases ends with
  | done isLoaded => exact absurd isLoaded (unread _)
  | unwritten isLoaded => rfl
  | refused none => rfl

end Command

end FieldClock
