import FieldClock.Sink

/-!
# Text in buffers

A buffer that is too small holds the first bytes of what a large one would hold. It does not matter in how many pieces the text
comes, nor that nothing more is written once a piece was refused.
-/

namespace FieldClock

/-! ### Bytes of texts -/

theorem toList_loop (bs : ByteArray) (i : Nat) (r : List UInt8) :
    ByteArray.toList.loop bs i r = r.reverse ++ bs.data.toList.drop i := by
  fun_induction ByteArray.toList.loop bs i r with
  | case1 i r more ih =>
    have here : i < bs.data.toList.length := more
    rw [ih, List.reverse_cons, List.append_assoc, List.drop_eq_getElem_cons here]
    simp [ByteArray.get!, getElem!_pos, more]
  | case2 i r done =>
    have past : bs.data.toList.length ≤ i := Nat.le_of_not_lt done
    rw [List.drop_eq_nil_of_le past, List.append_nil]

/-- The bytes of a text. -/
def octets (text : String) : List UInt8 := text.toUTF8.toList

theorem octets_eq (text : String) : octets text = text.toByteArray.data.toList := toList_loop _ 0 []

/-- The bytes of two texts stand one behind the other. -/
theorem octets_append (first rest : String) : octets (first ++ rest) = octets first ++ octets rest := by
  simp only [octets_eq, String.toByteArray_append, ByteArray.data_append, Array.toList_append]

theorem octets_join (texts : List String) : octets (String.join texts) = texts.flatMap octets := by
  induction texts with
  | nil => simp [octets_eq]
  | cons text rest ih => rw [String.join_cons, octets_append, ih, List.flatMap_cons]

/-- A way to cut texts in pieces. -/
structure Cutting where
  pieces : String → List String
  joined : ∀ text, String.join (pieces text) = text

instance : Inhabited Cutting where
  default := ⟨fun text => [text], fun text => by simp⟩

namespace Buffer

/-- Writes pieces of text until one is refused. -/
def writeAll : List String → Buffer → Except WriteFault Unit × Buffer
  | [], b => (.ok (), b)
  | piece :: rest, b =>
    match b.write piece with
    | (.error fault, b) => (.error fault, b)
    | (.ok (), b) => b.writeAll rest

/-- What came of writing these bytes to an empty buffer, and the buffer they leave. -/
def filled (room : Option Nat) (bytes : List UInt8) : Except WriteFault Unit × Buffer :=
  match room with
  | none => (.ok (), ⟨none, bytes⟩)
  | some n => (if bytes.length ≤ n then .ok () else .error .bufferFull, ⟨some n, bytes.take n⟩)

/-- Writes a text in pieces, unless one could not be written before. -/
def resume (cut : Cutting) (state : Except WriteFault Unit × Buffer) (text : String) : Except WriteFault Unit × Buffer :=
  match state with
  | (.error fault, b) => (.error fault, b)
  | (.ok (), b) => b.writeAll (cut.pieces text)

section
variable {room : Option Nat} {bytes : List UInt8} {b : Buffer}

theorem filled_of_fits {n : Nat} (fits : bytes.length ≤ n) : filled (some n) bytes = (.ok (), ⟨some n, bytes⟩) := by
  rw [filled, if_pos fits, List.take_of_length_le fits]

theorem filled_of_not_fits {n : Nat} (full : ¬ bytes.length ≤ n) :
    filled (some n) bytes = (.error .bufferFull, ⟨some n, bytes.take n⟩) := by
  rw [filled, if_neg full]

theorem filled_nil (room : Option Nat) : filled room [] = (.ok (), { room }) := by
  rcases room with _ | n
  · rfl
  · exact filled_of_fits (Nat.zero_le n)

theorem filled_room (room : Option Nat) (bytes : List UInt8) : (filled room bytes).2.room = room := by
  cases room <;> rfl

/-- A buffer that took all bytes so far takes a text as if it came with them. -/
theorem write_filled (took : filled room bytes = (.ok (), b)) (text : String) :
    b.write text = filled room (bytes ++ octets text) := by
  rcases room with _ | n
  · cases took
    rfl
  by_cases fits : bytes.length ≤ n
  · rw [filled_of_fits fits] at took
    obtain rfl := (Prod.mk.inj took).2
    have written : Buffer.write text ⟨some n, bytes⟩ =
        if (bytes ++ octets text).length ≤ n then (.ok (), ⟨some n, bytes ++ octets text⟩)
        else (.error .bufferFull, ⟨some n, (bytes ++ octets text).take n⟩) := rfl
    by_cases whole : (bytes ++ octets text).length ≤ n
    · rw [written, if_pos whole, filled_of_fits whole]
    · rw [written, if_neg whole, filled_of_not_fits whole]
  · rw [filled_of_not_fits fits] at took
    cases took

/-- A buffer that refused bytes is full, so it takes nothing that comes behind them. -/
theorem filled_refused {fault : WriteFault} (refused : filled room bytes = (.error fault, b)) (more : List UInt8) :
    filled room (bytes ++ more) = (.error fault, b) := by
  rcases room with _ | n
  · cases refused
  by_cases fits : bytes.length ≤ n
  · rw [filled_of_fits fits] at refused
    cases refused
  · have full : ¬ (bytes ++ more).length ≤ n := by
      rw [List.length_append]
      omega
    rw [← refused, filled_of_not_fits fits, filled_of_not_fits full, List.take_append_of_le_length (by omega)]

theorem writeAll_filled (took : filled room bytes = (.ok (), b)) (texts : List String) :
    b.writeAll texts = filled room (bytes ++ texts.flatMap octets) := by
  induction texts generalizing bytes b with
  | nil => rw [List.flatMap_nil, List.append_nil, took, writeAll]
  | cons text rest ih =>
    rw [writeAll, write_filled took, List.flatMap_cons, ← List.append_assoc]
    rcases next : filled room (bytes ++ octets text) with ⟨fault | _, b'⟩
    · rw [filled_refused next]
    · exact ih next

theorem resume_filled (cut : Cutting) (room : Option Nat) (bytes : List UInt8) (text : String) :
    resume cut (filled room bytes) text = filled room (bytes ++ octets text) := by
  rcases before : filled room bytes with ⟨fault | _, b⟩
  · rw [resume, filled_refused before]
  · rw [resume, writeAll_filled before, ← octets_join, cut.joined]

/-- Texts in pieces, given up at the first refusal, leave the buffer as all their bytes at once do. -/
theorem foldl_resume_filled (cut : Cutting) (room : Option Nat) (bytes : List UInt8) (texts : List String) :
    texts.foldl (resume cut) (filled room bytes) = filled room (bytes ++ texts.flatMap octets) := by
  induction texts generalizing bytes with
  | nil => rw [List.foldl_nil, List.flatMap_nil, List.append_nil]
  | cons text rest ih => rw [List.foldl_cons, resume_filled, ih, List.flatMap_cons, List.append_assoc]

end

end Buffer

end FieldClock
