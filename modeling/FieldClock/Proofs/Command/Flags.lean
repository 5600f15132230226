import FieldClock.Command.Options
import Mathlib.Data.List.Forall2

/-!
# Flags

The words of the flags that lay something over the settings, in each way that a flag can be written, and the options that a
command line of them asks for.
-/

namespace FieldClock.Command

/-! ### Long forms -/

theorem Name.ofLong?_long (name : Name) : Name.ofLong? name.long.toList = some name := by
  cases name <;> decide

theorem Name.long_ne_nil (name : Name) : name.long.toList ≠ [] := by
  cases name <;> decide

theorem Name.not_mem_long (name : Name) : '=' ∉ name.long.toList := by
  cases name <;> decide

theorem Progress.long_value (p : Progress) (name : Name) (value : List Char) :
    p.long (name.long.toList ++ '=' :: value) = p.name name (some value) := by
  have plain : ∀ c ∈ name.long.toList, (c != '=') = true := fun c listed => by
    rw [bne_iff_ne]
    rintro rfl
    exact name.not_mem_long listed
  have form : (name.long.toList ++ '=' :: value).takeWhile (· != '=') = name.long.toList := by
    rw [List.takeWhile_append_of_pos plain]
    simp
  have behind : (name.long.toList ++ '=' :: value).dropWhile (· != '=') = '=' :: value := by
    rw [List.dropWhile_append_of_pos plain]
    simp
  simp only [long, form, behind, name.ofLong?_long]

theorem Progress.long_alone (p : Progress) (name : Name) : p.long name.long.toList = p.name name none := by
  cases name <;> rfl

/-! ### Flags -/

/-- A flag, with a value that can be read. -/
inductive Flag where
  | config (path : String) (named : path ≠ "")
  | device (text : String) (target : Target) (reads : Target.read text = .ok target)
  | writeMs
  | applyUnitId

namespace Flag

/-- The name that a flag is given by. -/
@[simp] def name : Flag → Name
  | config _ _ => .config
  | device _ _ _ => .device
  | writeMs => .writeMs
  | applyUnitId => .applyUnitId

/-- The value of a flag, if it has one. -/
@[simp] def value? : Flag → Option String
  | config path _ => some path
  | device text _ _ => some text
  | writeMs => none
  | applyUnitId => none

/-- The word of a flag that is written in one word, by its long form. -/
def word (f : Flag) : String := "--" ++ f.name.long ++ f.value?.elim "" ("=" ++ ·)

/-- The path that a flag names, if it names one. -/
@[simp] def path? : Flag → Option String
  | config path _ => some path
  | _ => none

/-- The target that a flag names, if it names one. -/
@[simp] def target? : Flag → Option Target
  | device _ target _ => some target
  | _ => none

end Flag

/-- A word that is not taken for a name: no hyphen stands first, unless alone. -/
def Plain (word : String) : Prop := ∀ c rest, word.toList ≠ '-' :: c :: rest

/-- The ways to write a flag. A value stands in the next word, or in the same one: behind `=`, or right behind a letter if it
    does not begin with `=` itself. -/
inductive Flag.Spells : Flag → List String → Prop
  | long (f : Flag) : Spells f [f.word]
  | longApart {f : Flag} {value : String} (valued : f.value? = some value) (plain : Plain value) :
      Spells f ["--" ++ f.name.long, value]
  | letterApart {f : Flag} {value : String} {c : Char} (valued : f.value? = some value) (lettered : f.name.short? = some c)
      (plain : Plain value) : Spells f [String.ofList ['-', c], value]
  | letterEquals {f : Flag} {value : String} {c : Char} (valued : f.value? = some value)
      (lettered : f.name.short? = some c) : Spells f [String.ofList ('-' :: c :: '=' :: value.toList)]
  | letterJoined {f : Flag} {value : String} {c : Char} (valued : f.value? = some value)
      (lettered : f.name.short? = some c) (nonempty : value.toList ≠ []) (apart : value.toList.head? ≠ some '=') :
      Spells f [String.ofList ('-' :: c :: value.toList)]

/-- The options with flags put behind them. -/
def Options.plus (o : Options) (flags : List Flag) : Options :=
  { o with
    config := o.config.or (flags.findSome? Flag.path?)
    devices := o.devices ++ flags.filterMap Flag.target?
    writeMs := o.writeMs || flags.any (·.name = .writeMs)
    applyUnitId := o.applyUnitId || flags.any (·.name = .applyUnitId) }

/-- Whether a flag can still be given. Devices can be given any number of times. -/
def Options.Free (o : Options) : Flag → Prop
  | .config _ _ => o.config = none
  | .device _ _ _ => True
  | .writeMs => o.writeMs = false
  | .applyUnitId => o.applyUnitId = false

/-- No flag but that for devices is given twice. -/
def Unrepeated (flags : List Flag) : Prop := flags.Pairwise fun f g => f.name = g.name → f.name = .device

/-- Takes in a flag. -/
def Options.set (o : Options) (f : Flag) : Except Stop Options :=
  match f.value? with
  | some value => o.setValue f.name value
  | none => o.setFlag f.name

theorem Options.set_free {o : Options} {f : Flag} (free : o.Free f) : o.set f = .ok (o.plus [f]) := by
  cases f with
  | config path named =>
    have free : o.config = none := free
    simp [set, setValue, plus, List.filterMap_cons, free, named]
  | device text target reads => simp [set, setValue, plus, reads]
  | writeMs =>
    have free : o.writeMs = false := free
    simp [set, setFlag, plus, List.filterMap_cons, free]
  | applyUnitId =>
    have free : o.applyUnitId = false := free
    simp [set, setFlag, plus, List.filterMap_cons, free]

theorem Flag.word_eq (f : Flag) :
    f.word = String.ofList ('-' :: '-' :: (f.name.long.toList ++ f.value?.elim [] fun value => '=' :: value.toList)) := by
  apply String.toList_inj.mp
  unfold word
  rcases f.value? with _ | value <;> simp

theorem Progress.long_flag (p : Progress) (f : Flag) :
    p.long (f.name.long.toList ++ f.value?.elim [] fun value => '=' :: value.toList) =
      p.name f.name (f.value?.map String.toList) := by
  rcases f.value? with _ | value
  · exact (congrArg _ (List.append_nil _)).trans (p.long_alone _)
  · exact p.long_value _ _

/-- A flag whose value is at hand is taken in at once. -/
theorem Progress.name_flag {o : Options} {f : Flag} (free : o.Free f) :
    Progress.name ⟨o, none⟩ f.name (f.value?.map String.toList) = .ok ⟨o.plus [f], none⟩ := by
  have named : Progress.name ⟨o, none⟩ f.name (f.value?.map String.toList) =
      o.set f >>= fun options => pure ⟨options, none⟩ := by
    cases f with
    | config path named => simp only [name, Options.set, Flag.value?, Flag.name, Option.map_some, String.ofList_toList]
    | device text target reads =>
      simp only [name, Options.set, Flag.value?, Flag.name, Option.map_some, String.ofList_toList]
    | writeMs => rfl
    | applyUnitId => rfl
  rw [named, Options.set_free free]
  rfl

/-! ### Words -/

section
variable {o : Options} {f : Flag} {value : String} {c : Char}

theorem Flag.takesValue_of_valued (valued : f.value? = some value) : f.name.takesValue = true := by
  cases f with
  | config => rfl
  | device => rfl
  | writeMs => cases valued
  | applyUnitId => cases valued

theorem Name.ofShort?_short {name : Name} (lettered : name.short? = some c) : Name.ofShort? c = some name := by
  cases name <;> cases lettered <;> rfl

theorem Name.short_ne_hyphen {name : Name} (lettered : name.short? = some c) : c ≠ '-' := by
  cases name <;> cases lettered <;> decide

theorem Progress.words_cons {word : String} (named : word ≠ "--") (p : Progress) (rest : List String) :
    p.words (word :: rest) = p.word word >>= fun p => p.words rest := by
  rw [words, if_neg named]

theorem ofList_ne_hyphens {cs : List Char} (apart : cs ≠ ['-', '-']) : String.ofList cs ≠ "--" :=
  fun same => apart (String.toList_ofList.symm.trans (congrArg String.toList same))

theorem attached?_self {behind : List Char} (nonempty : behind ≠ []) (apart : behind.head? ≠ some '=') :
    attached? behind = some behind := by
  unfold attached?
  split
  · exact absurd rfl nonempty
  · exact absurd rfl apart
  · rfl

/-- A word by a long form is that form with what stands behind it. -/
theorem Progress.words_long {form : List Char} (named : form ≠ []) (rest : List String) :
    Progress.words ⟨o, none⟩ (String.ofList ('-' :: '-' :: form) :: rest) =
      Progress.long ⟨o, none⟩ form >>= fun p => p.words rest := by
  have more : String.ofList ('-' :: '-' :: form) ≠ "--" :=
    ofList_ne_hyphens fun same => named (List.cons.inj (List.cons.inj same).2).2
  rw [words_cons more, word, String.toList_ofList]
  rfl

/-- A word by the letter of a name that takes a value is this name with what stands behind the letter. -/
theorem Progress.words_letter {name : Name} (lettered : name.short? = some c) (takes : name.takesValue = true)
    (behind : List Char) (rest : List String) :
    Progress.words ⟨o, none⟩ (String.ofList ('-' :: c :: behind) :: rest) =
      Progress.name ⟨o, none⟩ name (attached? behind) >>= fun p => p.words rest := by
  have apart := Name.short_ne_hyphen lettered
  have more : String.ofList ('-' :: c :: behind) ≠ "--" :=
    ofList_ne_hyphens fun same => apart (List.cons.inj (List.cons.inj same).2).1
  have read : Progress.word ⟨o, none⟩ (String.ofList ('-' :: c :: behind)) =
      Progress.name ⟨o, none⟩ name (attached? behind) := by
    unfold word
    rw [String.toList_ofList]
    split
    · rename_i split
      exact absurd (List.cons.inj (List.cons.inj split).2).1 apart
    · rename_i split
      obtain ⟨rfl, rfl⟩ := List.cons.inj (List.cons.inj split).2
      show Progress.letters ⟨o, none⟩ (_ :: _) = _
      rw [letters, Name.ofShort?_short lettered]
      exact if_pos takes
    · rename_i plain
      exact absurd rfl (plain _ _)
  rw [words_cons more, read]

/-- A value behind the name that awaits it is taken in like a value at hand. -/
theorem Progress.words_awaited (valued : f.value? = some value) (plain : Plain value) (free : o.Free f) (rest : List String) :
    Progress.words ⟨o, some f.name⟩ (value :: rest) = Progress.words ⟨o.plus [f], none⟩ rest := by
  have more : value ≠ "--" := by
    rintro rfl
    exact plain _ _ rfl
  have read : Progress.word ⟨o, some f.name⟩ value = .ok ⟨o.plus [f], none⟩ := by
    have taken := name_flag free
    rw [valued, Option.map_some, name, String.ofList_toList] at taken
    unfold word
    split
    · rename_i same
      exact absurd same (plain _ _)
    · rename_i same
      exact absurd same (plain _ _)
    · exact taken
  rw [words_cons more, read]
  rfl

/-- A flag is taken in, in whatever way it is written. -/
theorem Progress.words_spells {spelled : List String} (spells : f.Spells spelled) (free : o.Free f) (rest : List String) :
    Progress.words ⟨o, none⟩ (spelled ++ rest) = Progress.words ⟨o.plus [f], none⟩ rest := by
  have whole := name_flag free
  have awaits (takes : f.name.takesValue = true) : Progress.name ⟨o, none⟩ f.name none = .ok ⟨o, some f.name⟩ := if_pos takes
  -- However a flag is written, it comes down to its name, with the value at hand or awaited.
  cases spells with
  | long =>
    rw [List.singleton_append, f.word_eq, words_long (List.append_ne_nil_of_left_ne_nil f.name.long_ne_nil _), long_flag, whole]
    rfl
  | longApart valued plain =>
    have form : "--" ++ f.name.long = String.ofList ('-' :: '-' :: f.name.long.toList) := String.toList_inj.mp (by simp)
    rw [form, List.cons_append, words_long f.name.long_ne_nil, long_alone, awaits (f.takesValue_of_valued valued)]
    exact words_awaited valued plain free rest
  | letterApart valued lettered plain =>
    rw [List.cons_append, words_letter lettered (f.takesValue_of_valued valued), attached?,
      awaits (f.takesValue_of_valued valued)]
    exact words_awaited valued plain free rest
  | letterEquals valued lettered =>
    rw [valued, Option.map_some] at whole
    rw [List.singleton_append, words_letter lettered (f.takesValue_of_valued valued), attached?, whole]
    rfl
  | letterJoined valued lettered nonempty apart =>
    rw [valued, Option.map_some] at whole
    rw [List.singleton_append, words_letter lettered (f.takesValue_of_valued valued), attached?_self nonempty apart, whole]
    rfl

end

/-! ### Command lines -/

theorem Options.plus_append (o : Options) (flags more : List Flag) : (o.plus flags).plus more = o.plus (flags ++ more) := by
  simp [plus, Option.or_assoc, Bool.or_assoc]

theorem Options.Free.plus {o : Options} {f g : Flag} (free : o.Free g) (apart : f.name = g.name → f.name = .device) :
    (o.plus [f]).Free g := by
  cases g <;> cases f <;> simp_all [Free, Options.plus]

theorem Progress.words_flags {flags : List Flag} {spelled : List (List String)}
    (spells : List.Forall₂ Flag.Spells flags spelled) (unrepeated : Unrepeated flags) {o : Options}
    (free : ∀ f ∈ flags, o.Free f) : Progress.words ⟨o, none⟩ spelled.flatten = .ok ⟨o.plus flags, none⟩ := by
  induction spells generalizing o with
  | nil => simp [words, settled, Options.plus]
  | @cons f words flags spelled first more ih =>
    obtain ⟨apart, unrepeated⟩ := List.pairwise_cons.mp unrepeated
    have free' : ∀ g ∈ flags, (o.plus [f]).Free g := fun g later =>
      (free g (List.mem_cons_of_mem f later)).plus (apart g later)
    have split : o.plus (f :: flags) = (o.plus [f]).plus flags := (o.plus_append [f] flags).symm
    rw [List.flatten_cons, words_spells first (free f List.mem_cons_self), split]
    exact ih unrepeated free'

/-- A command line of flags asks for the options that they say, in whatever way each is written. -/
theorem Options.ofWords_flags {flags : List Flag} {spelled : List (List String)}
    (spells : List.Forall₂ Flag.Spells flags spelled) (unrepeated : Unrepeated flags) :
    Options.ofWords spelled.flatten = .ok {
      config := flags.findSome? Flag.path?
      devices := flags.filterMap Flag.target?
      writeMs := flags.any (·.name = .writeMs)
      applyUnitId := flags.any (·.name = .applyUnitId) } := by
  have free : ∀ f ∈ flags, ({} : Options).Free f := by
    intro f _
    cases f <;> simp [Free]
  rw [ofWords, Progress.words_flags spells unrepeated free]
  rfl

end FieldClock.Command
