import FieldClock.Proofs.Modbus.Frame

/-!
# Accepted replies

Which PDUs a client takes for the answer to a read or a write. A reply may be longer than it has to be: what stands behind
its data is ignored.
-/

namespace FieldClock.Modbus

theorem readFunction_plain : readFunction &&& 0x80 = 0 := by decide

theorem writeFunction_plain : writeFunction &&& 0x80 = 0 := by decide

theorem exception?_plain {function : UInt8} (plain : function &&& 0x80 = 0) (rest : List UInt8) :
    exception? (function :: rest) = none := by
  simp [exception?, plain]

/-- A reply with an exception is accepted as nothing else. -/
theorem checkException_bind_eq_ok_iff {α : Type} {pdu : List UInt8} {next : List UInt8 → Except Fault α} {a : α} :
    (checkException pdu >>= next) = .ok a ↔ exception? pdu = none ∧ next pdu = .ok a := by
  unfold checkException
  rcases exception? pdu with _ | e
  · simp only [true_and]
    rfl
  · simp only [reduceCtorEq, false_and, iff_false]
    intro ok
    cases ok

/-! ### Replies to reads -/

/-- The reply that shows these registers, up to what is ignored behind it. -/
def ShowsRegisters (values : List UInt16) (pdu : List UInt8) : Prop :=
  ∃ surplus, pdu = readFunction :: UInt8.ofNat (values.length * 2) :: (values.flatMap wordBytes ++ surplus)

theorem byteCount_toNat {n : Nat} (small : n ≤ maxReadRegisters) : (UInt8.ofNat (n * 2)).toNat = n * 2 := by
  unfold maxReadRegisters at small
  rw [UInt8.toNat_ofNat']
  exact Nat.mod_eq_of_lt (by omega)

theorem readReply_eq_ok_iff {quantity : UInt16} {pdu : List UInt8} {values : List UInt16}
    (small : quantity.toNat ≤ maxReadRegisters) :
    readReply quantity pdu = .ok values ↔ values.length = quantity.toNat ∧ ShowsRegisters values pdu := by
  constructor
  · intro ok
    unfold readReply at ok
    split at ok
    · rename_i function count data
      split at ok
      · cases ok
      split at ok
      · cases ok
      split at ok
      · cases ok
      · rename_i hf hc hd
        have hf := Decidable.of_not_not hf
        have hc := Decidable.of_not_not hc
        have htake : (data.take count.toNat).length = quantity.toNat * 2 := by
          rw [List.length_take]
          omega
        obtain ⟨ws, hlen, hws⟩ := exists_words htake
        rw [hws, wordsOfBytes_flatMap] at ok
        obtain rfl := Except.ok.inj ok
        refine ⟨hlen, data.drop count.toNat, ?_⟩
        have hcount : count = UInt8.ofNat (ws.length * 2) := by
          apply UInt8.toNat_inj.mp
          rw [hc, hlen, byteCount_toNat small]
        rw [← hws, List.take_append_drop, hf, hcount]
    · cases ok
  · rintro ⟨hlen, surplus, rfl⟩
    have hcount : (UInt8.ofNat (values.length * 2)).toNat = quantity.toNat * 2 := by
      rw [hlen, byteCount_toNat small]
    have hdata := flatMap_wordBytes_length values
    rw [readReply, if_neg (not_not_intro rfl), if_neg (not_not_intro hcount), hcount, if_neg]
    · rw [List.take_left' (by rw [hdata, hlen]), wordsOfBytes_flatMap]
    · rw [List.length_append, hdata]
      omega

/-- A reply to a read is accepted just if it shows the number of registers that was asked for. -/
theorem read_accepted_iff {quantity : UInt16} {pdu : List UInt8} {values : List UInt16}
    (small : quantity.toNat ≤ maxReadRegisters) :
    (checkException pdu >>= readReply quantity) = .ok values ↔
      values.length = quantity.toNat ∧ ShowsRegisters values pdu := by
  rw [checkException_bind_eq_ok_iff, readReply_eq_ok_iff small]
  refine ⟨And.right, fun h => ⟨?_, h⟩⟩
  obtain ⟨-, surplus, rfl⟩ := h
  exact exception?_plain readFunction_plain _

/-! ### Replies to writes -/

/-- The reply that repeats an address and a quantity, up to what is ignored behind it. -/
def Echoes (address quantity : UInt16) (pdu : List UInt8) : Prop :=
  ∃ surplus, pdu = writeFunction :: (wordBytes address ++ wordBytes quantity ++ surplus)

theorem writeReply_eq_ok_iff {address quantity : UInt16} {pdu : List UInt8} :
    writeReply address quantity pdu = .ok () ↔ Echoes address quantity pdu := by
  constructor
  · intro ok
    unfold writeReply at ok
    split at ok
    · rename_i function a₁ a₂ q₁ q₂ surplus
      split at ok
      · cases ok
      split at ok
      · cases ok
      · rename_i hf he
        obtain ⟨ha, hq⟩ := not_or.mp he
        refine ⟨surplus, ?_⟩
        rw [Decidable.of_not_not hf, ← Decidable.of_not_not ha, ← Decidable.of_not_not hq]
        simp
    · cases ok
  · rintro ⟨surplus, rfl⟩
    simp [writeReply, wordBytes]

/-- A reply to a write is accepted just if it repeats the address and the quantity. -/
theorem write_accepted_iff {address quantity : UInt16} {pdu : List UInt8} :
    (checkException pdu >>= writeReply address quantity) = .ok () ↔ Echoes address quantity pdu := by
  rw [checkException_bind_eq_ok_iff, writeReply_eq_ok_iff]
  refine ⟨And.right, fun h => ⟨?_, h⟩⟩
  obtain ⟨surplus, rfl⟩ := h
  exact exception?_plain writeFunction_plain _

end FieldClock.Modbus
