import FieldClock.Modbus.Pdu

/-!
# Frames on a stream

Words, headers and whole frames as bytes, and back. A header is the same as its seven bytes, so whatever stands first in a
long enough stream is the header of something.
-/

namespace FieldClock.Modbus

/-! ### Words -/

theorem wordOfBytes_toNat (hi lo : UInt8) : (wordOfBytes hi lo).toNat = hi.toNat * 256 + lo.toNat := by
  have hhi := hi.toNat_lt
  have hshift : (hi.toUInt16 <<< 8).toNat = hi.toNat <<< 8 := by
    simp only [UInt16.toNat_shiftLeft, UInt8.toNat_toUInt16]
    refine Nat.mod_eq_of_lt ?_
    rw [show (8 : UInt16).toNat % 16 = 8 from rfl, Nat.shiftLeft_eq]
    omega
  rw [wordOfBytes, UInt16.toNat_or, hshift, UInt8.toNat_toUInt16, ← Nat.shiftLeft_add_eq_or_of_lt lo.toNat_lt,
    Nat.shiftLeft_eq]

theorem wordBytes_hi_toNat (w : UInt16) : (w >>> 8).toUInt8.toNat = w.toNat / 256 := by
  have hw := w.toNat_lt
  rw [UInt16.toNat_toUInt8, UInt16.toNat_shiftRight, show (8 : UInt16).toNat % 16 = 8 from rfl,
    Nat.shiftRight_eq_div_pow]
  omega

theorem wordBytes_lo_toNat (w : UInt16) : w.toUInt8.toNat = w.toNat % 256 :=
  UInt16.toNat_toUInt8 w

@[simp] theorem wordOfBytes_bytes (w : UInt16) : wordOfBytes (w >>> 8).toUInt8 w.toUInt8 = w := by
  apply UInt16.toNat_inj.mp
  rw [wordOfBytes_toNat, wordBytes_hi_toNat, wordBytes_lo_toNat]
  omega

@[simp] theorem wordBytes_wordOfBytes (hi lo : UInt8) : wordBytes (wordOfBytes hi lo) = [hi, lo] := by
  have hlo := lo.toNat_lt
  have hhi := hi.toNat_lt
  have h₁ : (wordOfBytes hi lo >>> 8).toUInt8 = hi := by
    apply UInt8.toNat_inj.mp
    rw [wordBytes_hi_toNat, wordOfBytes_toNat]
    omega
  have h₂ : (wordOfBytes hi lo).toUInt8 = lo := by
    apply UInt8.toNat_inj.mp
    rw [wordBytes_lo_toNat, wordOfBytes_toNat]
    omega
  rw [wordBytes, h₁, h₂]

@[simp] theorem wordBytes_length (w : UInt16) : (wordBytes w).length = 2 := rfl

@[simp] theorem wordsOfBytes_flatMap (ws : List UInt16) : wordsOfBytes (ws.flatMap wordBytes) = ws := by
  induction ws with
  | nil => rfl
  | cons w ws ih =>
    simp only [List.flatMap_cons, wordBytes, List.cons_append, List.nil_append, wordsOfBytes, wordOfBytes_bytes]
    exact congrArg _ ih

theorem flatMap_wordBytes_length (ws : List UInt16) : (ws.flatMap wordBytes).length = ws.length * 2 := by
  induction ws with
  | nil => rfl
  | cons w ws ih => simp [ih]; omega

/-- An even number of bytes is the bytes of half as many words. -/
theorem exists_words : ∀ {n : Nat} {bytes : List UInt8}, bytes.length = n * 2 →
    ∃ ws : List UInt16, ws.length = n ∧ bytes = ws.flatMap wordBytes
  | 0, bytes, h => ⟨[], rfl, List.eq_nil_of_length_eq_zero (by omega)⟩
  | n + 1, hi :: lo :: rest, h => by
    have hrest : rest.length = n * 2 := by
      simp only [List.length_cons] at h
      omega
    obtain ⟨ws, hlen, rfl⟩ := exists_words hrest
    exact ⟨wordOfBytes hi lo :: ws, by simp [hlen], by simp⟩
  | n + 1, [_], h => by
    simp only [List.length_singleton] at h
    omega
  | n + 1, [], h => by simp at h

theorem add_ofNat_succ (n : UInt16) (k : Nat) : n + 1 + UInt16.ofNat k = n + UInt16.ofNat (k + 1) := by
  rw [UInt16.ofNat_add, UInt16.add_comm (UInt16.ofNat k), UInt16.add_assoc]
  rfl

/-! ### Headers -/

namespace Header

@[simp] theorem bytes_length (h : Header) : h.bytes.length = size := rfl

theorem ofBytes_bytes_append (h : Header) (rest : List UInt8) : ofBytes (h.bytes ++ rest) = .ok h := by
  simp [bytes, wordBytes, ofBytes]

@[simp] theorem ofBytes_bytes (h : Header) : ofBytes h.bytes = .ok h := by
  simpa using ofBytes_bytes_append h []

/-- The first seven bytes of a stream are a header. -/
theorem exists_bytes {stream : List UInt8} (long : size ≤ stream.length) :
    ∃ (h : Header) (rest : List UInt8), stream = h.bytes ++ rest := by
  match stream, long with
  | t₁ :: t₂ :: p₁ :: p₂ :: l₁ :: l₂ :: unit :: rest, _ =>
    exact ⟨⟨wordOfBytes t₁ t₂, wordOfBytes p₁ p₂, wordOfBytes l₁ l₂, unit⟩, rest, by simp [bytes]⟩

/-- A header answers a request if it repeats its transaction and its unit in the protocol of Modbus. -/
structure Answers (h : Header) (transactionId : UInt16) (unitId : UInt8) : Prop where
  transaction : h.transactionId = transactionId
  protocol : h.protocolId = 0
  unit : h.unitId = unitId

/-- A header is accepted just if it answers the request and leaves room for a PDU that a frame can carry. -/
theorem check_eq_ok_iff {h : Header} {transactionId : UInt16} {unitId : UInt8} {n : Nat} :
    h.check transactionId unitId = .ok n ↔
      h.Answers transactionId unitId ∧ h.length.toNat = n + 1 ∧ 1 ≤ n ∧ n ≤ maxPdu := by
  unfold check pduLength maxPdu
  constructor
  · intro ok
    split at ok
    · cases ok
    split at ok
    · cases ok
    split at ok
    · cases ok
    split at ok
    · cases ok
    · rename_i ht hp hu hl
      have : h.length.toNat - 1 = n := Except.ok.inj ok
      exact ⟨⟨Decidable.of_not_not ht, Decidable.of_not_not hp, Decidable.of_not_not hu⟩, by omega, by omega, by omega⟩
  · rintro ⟨⟨ht, hp, hu⟩, hn, hpos, hmax⟩
    have hlen : h.length.toNat - 1 = n := by omega
    rw [if_neg (not_not_intro ht), if_neg (not_not_intro hp), if_neg (not_not_intro hu), hlen, if_neg (by omega)]

theorem forRequest_length {transactionId : UInt16} {unitId : UInt8} {n : Nat} (small : n ≤ maxPdu) :
    (forRequest transactionId unitId n).length.toNat = n + 1 := by
  unfold maxPdu at small
  rw [forRequest, UInt16.toNat_ofNat']
  omega

end Header

/-! ### Frames -/

/-- A whole frame: the length in its header is that of its unit and its PDU, which is one that a frame can carry. -/
structure Frame where
  header : Header
  pdu : List UInt8
  length_eq : header.length.toNat = pdu.length + 1
  pdu_pos : 1 ≤ pdu.length
  pdu_le : pdu.length ≤ Header.maxPdu

/-- The bytes of a frame. -/
def Frame.bytes (f : Frame) : List UInt8 := f.header.bytes ++ f.pdu

/-- A frame is known by its bytes, whatever stands behind it. -/
theorem Frame.bytes_append_inj {f g : Frame} {rest rest' : List UInt8} (h : f.bytes ++ rest = g.bytes ++ rest') :
    f = g ∧ rest = rest' := by
  rcases f with ⟨header, pdu, hlen, hpos, hmax⟩
  rcases g with ⟨header', pdu', hlen', hpos', hmax'⟩
  simp only [Frame.bytes, List.append_assoc] at h
  obtain ⟨hheader, hpdu⟩ := List.append_inj h rfl
  obtain rfl : header = header' := by
    have parsed := Header.ofBytes_bytes header
    rw [hheader, Header.ofBytes_bytes] at parsed
    exact (Except.ok.inj parsed).symm
  obtain ⟨rfl, rfl⟩ := List.append_inj hpdu (by omega)
  exact ⟨rfl, rfl⟩

/-- The bytes of a frame with a PDU. -/
def framed (transactionId : UInt16) (unitId : UInt8) (pdu : List UInt8) : List UInt8 :=
  (Header.forRequest transactionId unitId pdu.length).bytes ++ pdu

end FieldClock.Modbus
