import FieldClock.Proofs.Text.Decimal
import FieldClock.Report.Text

/-!
# The text of a target tells which one it is

No two targets have one text, and so no two have one heading in a report. With a slash before its unit the text of a target
is read as this target, but for hosts that the reader takes apart at a bracket.
-/

namespace FieldClock

namespace Target

variable {t u : Target} {host : String} {port : UInt16}

/-- The text of a target before its unit: the host and the port. -/
def endpoint (t : Target) : String := hostText t.host ++ ":" ++ toString t.port.toNat

theorem text_eq_endpoint (t : Target) : t.text = t.endpoint ++ " unit=" ++ toString t.unitId.toNat := rfl

theorem hostText_colon (colon : ':' ∈ host.toList) : (hostText host).toList = '[' :: host.toList ++ [']'] := by
  simp [hostText, colon]

theorem hostText_plain (none : ':' ∉ host.toList) : (hostText host).toList = host.toList := by
  simp [hostText, none]

theorem endpoint_toList (t : Target) :
    t.endpoint.toList = (hostText t.host).toList ++ ':' :: Nat.toDigits 10 t.port.toNat := by
  have colon : ":".toList = [':'] := by decide
  simp only [endpoint, String.toList_append, Numeral.toList_toString, colon, List.append_assoc, List.singleton_append]

theorem text_toList (t : Target) :
    t.text.toList = (t.endpoint.toList ++ " unit".toList) ++ '=' :: Nat.toDigits 10 t.unitId.toNat := by
  have mark : " unit=".toList = " unit".toList ++ ['='] := by decide
  simp only [text_eq_endpoint, String.toList_append, Numeral.toList_toString, mark, List.append_assoc, List.singleton_append]

/-! ### Different targets -/

/-- Texts are split alike at the last place of a character. -/
theorem append_sep_inj {sep : Char} {before before' behind behind' : List Char} (absent : sep ∉ behind)
    (absent' : sep ∉ behind') (same : before ++ sep :: behind = before' ++ sep :: behind') :
    before = before' ∧ behind = behind' := by
  have split : splitLast? sep (before ++ sep :: behind) = _ := splitLast?_append absent
  rw [same, splitLast?_append absent', Option.some.injEq, Prod.mk.injEq] at split
  exact ⟨split.1.symm, split.2.symm⟩

theorem hostText_injective : Function.Injective hostText := by
  -- Brackets stand around a colon, and no other host has one.
  have apart : ∀ {host other : String}, ':' ∈ host.toList → ':' ∉ other.toList → hostText host ≠ hostText other := by
    intro host other colon none same
    have chars := congrArg String.toList same
    rw [hostText_colon colon, hostText_plain none] at chars
    exact none (chars ▸ by simp [colon])
  intro host other same
  by_cases colon : ':' ∈ host.toList <;> by_cases colon' : ':' ∈ other.toList
  · have chars := congrArg String.toList same
    rw [hostText_colon colon, hostText_colon colon'] at chars
    exact String.toList_injective (by simpa using chars)
  · exact absurd same (apart colon colon')
  · exact absurd same.symm (apart colon' colon)
  · have chars := congrArg String.toList same
    rw [hostText_plain colon, hostText_plain colon'] at chars
    exact String.toList_injective chars

theorem endpoint_inj (same : t.endpoint = u.endpoint) : t.host = u.host ∧ t.port = u.port := by
  have chars := congrArg String.toList same
  rw [endpoint_toList, endpoint_toList] at chars
  obtain ⟨hosts, ports⟩ := append_sep_inj (Numeral.not_mem_toDigits rfl _) (Numeral.not_mem_toDigits rfl _) chars
  exact ⟨hostText_injective (String.toList_injective hosts), UInt16.toNat_inj.mp (Numeral.toDigits_inj ports)⟩

/-- The unit stands behind the last equality sign and the port behind the last colon before it, whatever the host holds. -/
theorem text_inj (same : t.text = u.text) : t = u := by
  have chars := congrArg String.toList same
  rw [text_toList, text_toList] at chars
  obtain ⟨endpoints, units⟩ := append_sep_inj (Numeral.not_mem_toDigits rfl _) (Numeral.not_mem_toDigits rfl _) chars
  obtain ⟨hosts, ports⟩ := endpoint_inj (String.toList_injective (List.append_cancel_right endpoints))
  cases t
  cases u
  obtain rfl := UInt8.toNat_inj.mp (Numeral.toDigits_inj units)
  obtain rfl : _ = _ := hosts
  obtain rfl : _ = _ := ports
  rfl

/-! ### Reading back -/

/-- A host that is read back from before a port: no closing bracket ends it early, and no opening one begins it bare. -/
def Readable (host : String) : Prop :=
  if ':' ∈ host.toList then ']' ∉ host.toList else host.toList.head? ≠ some '['

section
variable {cs digits : List Char}

theorem spellsEndpoint_bracketed (number : Numeral.Decimal digits port.toNat) :
    SpellsEndpoint ('[' :: cs ++ ']' :: ':' :: digits) cs port ↔ ']' ∉ cs := by
  constructor
  · intro spelled
    generalize whole : '[' :: cs ++ ']' :: ':' :: digits = text at spelled
    cases spelled with
    | bracketed closed => exact closed
    | bracketedWithPort closed _ => exact closed
    | colons bare _ => exact absurd (whole ▸ rfl) bare
    | withPort bare _ _ => exact absurd (whole ▸ rfl) bare
    | plain bare _ => exact absurd (whole ▸ rfl) bare
  · intro closed
    exact .bracketedWithPort closed (.plain number)

theorem spellsEndpoint_bare (none : ':' ∉ cs) (number : Numeral.Decimal digits port.toNat) (absent : ':' ∉ digits) :
    SpellsEndpoint (cs ++ ':' :: digits) cs port ↔ cs.head? ≠ some '[' := by
  have enclosed : ':' ∉ '[' :: cs ++ [']'] := by simp [none]
  constructor
  · intro spelled
    generalize whole : cs ++ ':' :: digits = text at spelled
    cases spelled with
    | bracketed _ => exact absurd (whole ▸ by simp) enclosed
    | @bracketedWithPort _ numeral _ _ _ =>
      -- The first colon would stand behind the host and behind the bracket after it.
      have split : splitFirst? ':' (cs ++ ':' :: digits) = _ := splitFirst?_append none
      have shape : '[' :: cs ++ ']' :: ':' :: numeral = ('[' :: cs ++ [']']) ++ ':' :: numeral := by simp
      rw [whole, shape, splitFirst?_append enclosed] at split
      have long := congrArg List.length (Prod.mk.inj (Option.some.inj split)).1
      simp only [List.length_append, List.length_cons] at long
      omega
    | colons _ _ => simp at whole
    | withPort bare _ _ =>
      intro opened
      rw [List.head?_append, opened] at bare
      exact bare rfl
    | plain _ _ => simp at whole
  · intro bare
    refine .withPort ?_ ?_ (.plain number)
    · rcases cs with _ | ⟨c, cs⟩
      · exact nofun
      · exact bare
    · rw [List.count_append, List.count_cons_self, List.count_eq_zero.mpr none, List.count_eq_zero.mpr absent]

end

theorem spellsEndpoint_endpoint (t : Target) :
    SpellsEndpoint t.endpoint.toList t.host.toList t.port ↔ Readable t.host := by
  have number := Numeral.decimal_toDigits t.port.toNat
  rw [endpoint_toList, Readable]
  split
  · rename_i colon
    rw [hostText_colon colon, ← spellsEndpoint_bracketed number]
    simp
  · rename_i none
    rw [hostText_plain none, spellsEndpoint_bare none number (Numeral.not_mem_toDigits rfl _)]

/-- With a slash before its unit, the text of a target is read as this target just if it has a readable host. -/
theorem read_endpoint_iff (t : Target) :
    read (t.endpoint ++ "/" ++ toString t.unitId.toNat) = .ok t ↔ t.host ≠ "" ∧ Readable t.host := by
  have chars : (t.endpoint ++ "/" ++ toString t.unitId.toNat).toList =
      t.endpoint.toList ++ '/' :: Nat.toDigits 10 t.unitId.toNat := by
    have slash : "/".toList = ['/'] := by decide
    simp only [String.toList_append, Numeral.toList_toString, slash, List.append_assoc, List.singleton_append]
  have unit : readUnit (Nat.toDigits 10 t.unitId.toNat) = .ok t.unitId :=
    readUnit_eq_ok_iff.mpr (.plain (Numeral.decimal_toDigits _))
  rw [read, chars, readChars_withUnit (Numeral.not_mem_toDigits rfl _), unit]
  refine readNamed_eq_ok_iff.trans ?_
  rw [← spellsEndpoint_endpoint t]
  constructor
  · rintro ⟨host, port, spelled, named, same⟩
    have hosts : t.host = String.ofList host := (congrArg Target.host same).symm
    have ports : port = t.port := congrArg Target.port same
    rw [hosts, String.toList_ofList, ← ports]
    exact ⟨by simpa using named, spelled⟩
  · rintro ⟨named, spelled⟩
    exact ⟨_, _, spelled, by simpa using named, by simp⟩

theorem readable_of_unbracketed (opening : '[' ∉ host.toList) (closing : ']' ∉ host.toList) : Readable host := by
  unfold Readable
  split
  · exact closing
  · intro opened
    exact opening (List.mem_of_mem_head? opened)

end Target

/-- The line that heads a report, behind an empty one. -/
def Report.heading (t : Target) : String := "\n=== Device " ++ t.text ++ " ===\n"

theorem Report.text_eq_heading_append (layout : RegisterMap) (r : Report) :
    ∃ telling, r.text layout = heading r.target ++ telling := by
  refine ⟨optional (timeLine "BEFORE" "device") r.outcome.before ++ optional (timeLine "HOST  " "host->device") r.outcome.host ++
    optional offsetLine r.outcome.offset ++ endLine layout r.outcome, ?_⟩
  rw [← String.append_assoc, ← String.append_assoc, ← String.append_assoc]
  rfl

theorem Report.heading_injective : Function.Injective heading := by
  intro t u same
  rw [heading, heading, String.append_left_inj, String.append_right_inj] at same
  exact Target.text_inj same

/-- Different targets have different texts, and their reports different headings. A target whose host has no brackets is
    read back from its text once a slash stands in place of what announces the unit there. -/
theorem Target.text_unambiguous :
    Function.Injective Target.text ∧
      (∀ layout (r : Report), ∃ telling, r.text layout = Report.heading r.target ++ telling) ∧
      Function.Injective Report.heading ∧
      ∀ t : Target, t.host ≠ "" → '[' ∉ t.host.toList → ']' ∉ t.host.toList →
        ∃ endpoint, t.text = endpoint ++ " unit=" ++ toString t.unitId.toNat ∧
          Target.read (endpoint ++ "/" ++ toString t.unitId.toNat) = .ok t := by
  refine ⟨fun _ _ => text_inj, Report.text_eq_heading_append, Report.heading_injective, ?_⟩
  intro t named opening closing
  have readable := readable_of_unbracketed opening closing
  exact ⟨t.endpoint, t.text_eq_endpoint, (read_endpoint_iff t).mpr ⟨named, readable⟩⟩

/-- A host that holds colons, a slash and what looks like a unit. -/
theorem Target.text_unambiguous_confusing :
    (⟨"fe80::1:502 unit=9/x", 1502, 7⟩ : Target).text = "[fe80::1:502 unit=9/x]:1502 unit=7" ∧
      Target.read "[fe80::1:502 unit=9/x]:1502/7" = .ok ⟨"fe80::1:502 unit=9/x", 1502, 7⟩ := by
  obtain ⟨endpoint, written, read⟩ := text_unambiguous.2.2.2 ⟨"fe80::1:502 unit=9/x", 1502, 7⟩ (by decide) (by decide)
    (by decide)
  have text : (⟨"fe80::1:502 unit=9/x", 1502, 7⟩ : Target).text = "[fe80::1:502 unit=9/x]:1502 unit=7" := by decide
  have split : "[fe80::1:502 unit=9/x]:1502 unit=7" = "[fe80::1:502 unit=9/x]:1502" ++ " unit=" ++ toString 7 := by decide
  rw [text, split] at written
  have found : "[fe80::1:502 unit=9/x]:1502" = endpoint :=
    (String.append_left_inj _).mp ((String.append_left_inj _).mp written)
  rw [← found] at read
  exact ⟨text, read⟩

end FieldClock
