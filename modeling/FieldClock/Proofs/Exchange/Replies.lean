import FieldClock.Proofs.DeviceTime.Registers
import FieldClock.Proofs.Modbus.Reply
import FieldClock.RegisterMap

/-!
# Replies in place

What a stream has to begin with for an exchange to succeed: one frame for each request, in order, that answers it.
-/

namespace FieldClock

open Modbus

/-! ### Replies that are due -/

/-- A reply that is due: registers that show the clock, or the echo of a write. -/
inductive Due where
  | clock (quantity : UInt16) (time : DeviceTime)
  | echo (address quantity : UInt16)

/-- Whether a PDU is the reply that is due. -/
def Due.Met : Due → List UInt8 → Prop
  | .clock quantity time, pdu =>
    ∃ registers : List UInt16, registers.length = quantity.toNat ∧ ShowsRegisters registers pdu ∧
      time.registers <+: registers ∧ time.milliseconds ≤ 999
  | .echo address quantity, pdu => Echoes address quantity pdu

/-- Bytes that begin with the replies due, each in a whole frame of its own, numbered on from `n`, and the bytes behind
    them. -/
def Heard (unitId : UInt8) : UInt16 → List Due → List UInt8 → List UInt8 → Prop
  | _, [], bytes, rest => bytes = rest
  | n, due :: dues, bytes, rest =>
    ∃ (frame : Frame) (more : List UInt8), bytes = frame.bytes ++ more ∧ frame.header.Answers (n + 1) unitId ∧
      due.Met frame.pdu ∧ Heard unitId (n + 1) dues more rest

/-- Bytes that begin with the replies due to a fresh client. -/
def BeginsWith (unitId : UInt8) (dues : List Due) (bytes : List UInt8) : Prop :=
  ∃ rest, Heard unitId 0 dues bytes rest

/-- The echoes of the writes in a layout. -/
def echoes (layout : RegisterMap) : List Due :=
  .echo layout.writeEpochAddress 2 :: if layout.writeMsEnabled then [.echo layout.writeMsAddress 1] else []

/-- The replies due in a whole exchange. -/
def dues (layout : RegisterMap) (before after : DeviceTime) : List Due :=
  .clock layout.readCount before :: (echoes layout ++ [.clock layout.readCount after])

/-! ### What is heard -/

section
variable {unitId : UInt8} {n : UInt16} {bytes rest rest' : List UInt8}

theorem heard_singleton {due : Due} :
    Heard unitId n [due] bytes rest ↔
      ∃ frame : Frame, bytes = frame.bytes ++ rest ∧ frame.header.Answers (n + 1) unitId ∧ due.Met frame.pdu := by
  constructor
  · rintro ⟨frame, more, arrived, answers, met, rfl⟩
    exact ⟨frame, arrived, answers, met⟩
  · rintro ⟨frame, arrived, answers, met⟩
    exact ⟨frame, rest, arrived, answers, met, rfl⟩

theorem heard_append {first second : List Due} :
    Heard unitId n (first ++ second) bytes rest ↔
      ∃ more, Heard unitId n first bytes more ∧ Heard unitId (n + UInt16.ofNat first.length) second more rest := by
  induction first generalizing n bytes with
  | nil => simp [Heard]
  | cons due first ih =>
    simp only [List.cons_append, Heard, ih, add_ofNat_succ, List.length_cons]
    constructor
    · rintro ⟨frame, more, arrived, answers, met, mid, h₁, h₂⟩
      exact ⟨mid, ⟨frame, more, arrived, answers, met, h₁⟩, h₂⟩
    · rintro ⟨mid, ⟨frame, more, arrived, answers, met, h₁⟩, h₂⟩
      exact ⟨frame, more, arrived, answers, met, mid, h₁, h₂⟩

/-- Where replies end does not depend on what they are to say. -/
theorem Heard.rest_unique {dues₁ dues₂ : List Due} (h : Heard unitId n dues₁ bytes rest)
    (h' : Heard unitId n dues₂ bytes rest') (same : dues₁.length = dues₂.length) : rest = rest' := by
  induction dues₁ generalizing n bytes dues₂ with
  | nil =>
    obtain rfl := List.eq_nil_of_length_eq_zero same.symm
    exact h.symm.trans h'
  | cons due dues₁ ih =>
    rcases dues₂ with _ | ⟨due', dues₂⟩
    · cases same
    obtain ⟨frame, more, arrived, -, -, h⟩ := h
    obtain ⟨frame', more', arrived', -, -, h'⟩ := h'
    obtain ⟨-, rfl⟩ := Frame.bytes_append_inj (arrived.symm.trans arrived')
    exact ih h h' (Nat.succ.inj same)

theorem Heard.not_append {first second : List Due} (heard : Heard unitId n first bytes rest)
    (unheard : ∀ last, ¬ Heard unitId (n + UInt16.ofNat first.length) second rest last) (last : List UInt8) :
    ¬ Heard unitId n (first ++ second) bytes last := by
  intro both
  obtain ⟨more, heard', behind⟩ := heard_append.mp both
  obtain rfl := heard.rest_unique heard' rfl
  exact unheard last behind

theorem Heard.clock_unique {quantity : UInt16} {time time' : DeviceTime}
    (small : quantity.toNat ≤ maxReadRegisters) (h : Heard unitId n [.clock quantity time] bytes rest)
    (h' : Heard unitId n [.clock quantity time'] bytes rest') : time = time' := by
  obtain ⟨frame, arrived, -, values, hlen, hregs, shows⟩ := heard_singleton.mp h
  obtain ⟨frame', arrived', -, values', hlen', hregs', shows'⟩ := heard_singleton.mp h'
  obtain ⟨rfl, -⟩ := Frame.bytes_append_inj (arrived.symm.trans arrived')
  have read := (readReply_eq_ok_iff small).mpr ⟨hlen, hregs⟩
  rw [(readReply_eq_ok_iff small).mpr ⟨hlen', hregs'⟩] at read
  obtain rfl := Except.ok.inj read
  have decoded := DeviceTime.ofRegisters_eq_ok_iff.mpr shows
  rw [DeviceTime.ofRegisters_eq_ok_iff.mpr shows'] at decoded
  exact (Except.ok.inj decoded).symm

theorem beginsWith_nil : BeginsWith unitId [] bytes := ⟨bytes, rfl⟩

theorem BeginsWith.left {first second : List Due} (h : BeginsWith unitId (first ++ second) bytes) :
    BeginsWith unitId first bytes := by
  obtain ⟨rest, heard⟩ := h
  obtain ⟨more, heard, -⟩ := heard_append.mp heard
  exact ⟨more, heard⟩

theorem BeginsWith.take {dues : List Due} (h : BeginsWith unitId dues bytes) (k : Nat) :
    BeginsWith unitId (dues.take k) bytes := by
  rw [← List.take_append_drop k dues] at h
  exact h.left

theorem BeginsWith.clock_unique {quantity : UInt16} {time time' : DeviceTime} {dues₁ dues₂ : List Due}
    (small : quantity.toNat ≤ maxReadRegisters) (h : BeginsWith unitId (.clock quantity time :: dues₁) bytes)
    (h' : BeginsWith unitId (.clock quantity time' :: dues₂) bytes) : time = time' := by
  obtain ⟨rest, heard⟩ := h.take 1
  obtain ⟨rest', heard'⟩ := h'.take 1
  exact heard.clock_unique small heard'

variable {layout : RegisterMap} {before after : DeviceTime} {k : Nat}

/-- The first replies of an exchange are in place. -/
def InPlace (layout : RegisterMap) (unitId : UInt8) (bytes : List UInt8) (k : Nat) : Prop :=
  ∃ before after, BeginsWith unitId ((dues layout before after).take k) bytes

theorem dues_eq_append :
    dues layout before after = (.clock layout.readCount before :: echoes layout) ++ [.clock layout.readCount after] :=
  rfl

theorem take_dues (few : k ≤ (echoes layout).length) :
    (dues layout before after).take (k + 1) = .clock layout.readCount before :: (echoes layout).take k := by
  rw [dues, List.take_succ_cons, List.take_append_of_le_length few]

theorem dues_length (layout : RegisterMap) (before after : DeviceTime) :
    (dues layout before after).length = (echoes layout).length + 1 + 1 := by
  rw [dues, List.length_cons, List.length_append]
  rfl

theorem dues_unique {before' after' : DeviceTime} (small : layout.readCount.toNat ≤ maxReadRegisters)
    (h : BeginsWith unitId (dues layout before after) bytes)
    (h' : BeginsWith unitId (dues layout before' after') bytes) : before = before' ∧ after = after' := by
  refine ⟨h.clock_unique small h', ?_⟩
  rw [dues_eq_append] at h h'
  obtain ⟨rest, heard⟩ := h
  obtain ⟨rest', heard'⟩ := h'
  obtain ⟨more, first, last⟩ := heard_append.mp heard
  obtain ⟨more', first', last'⟩ := heard_append.mp heard'
  obtain rfl := first.rest_unique first' rfl
  exact last.clock_unique small last'

end

end FieldClock
