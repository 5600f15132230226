import FieldClock.Duration
import FieldClock.Duration.Unit
import FieldClock.Text.Blank
import FieldClock.Text.Quoted

/-!
# Reading durations

A written duration is a run of spans, each a decimal number, perhaps with a fraction, and a unit. Blanks may stand
before a number, inside it and before its unit. Reading stops at the first fault; places are byte offsets in the text.
-/

namespace FieldClock.Duration

/-- Why a text is no duration. -/
inductive Fault where
  /-- A character that cannot stand at this offset. -/
  | invalidCharacter (offset : Nat)
  /-- Something other than a number where a span should begin. -/
  | numberExpected (offset : Nat)
  /-- A name that is no unit, or no name at all, after this number. -/
  | unknownUnit (name : String) (number : Nat)
  /-- A number that does not fit, or a fraction that is no whole number of its grain. -/
  | overflow
  /-- A text of blanks only. -/
  | empty
deriving DecidableEq

/-- The message for a fault. -/
def Fault.message : Fault → String
  | .invalidCharacter offset => "invalid character at " ++ toString offset
  | .numberExpected offset => "expected number at " ++ toString offset
  | .unknownUnit name number =>
    if name = "" then
      "time unit needed, for example " ++ toString number ++ "sec or " ++ toString number ++ "ms"
    else
      "unknown time unit " ++ Text.Quoted.encode name ++
        ", supported units: ns, us/µs, ms, sec, min, hours, days, weeks, months, years (and few variations)"
  | .overflow =>
    "number is too large or cannot be represented without a lack of precision (values below 1ns are not supported)"
  | .empty => "value was empty"

/-- Whether a character can stand in the name of a unit. -/
def isUnitLetter (c : Char) : Bool := c.isAlpha || c == 'µ'

/-- A place in the text: its byte offset and what follows. -/
structure Place where
  offset : Nat
  rest : List Char

/-- The sum of two numbers, if it fits in 64 bits. -/
def addChecked (a b : Nat) : Except Fault Nat := if a + b < bound64 then .ok (a + b) else .error .overflow

/-- The product of two numbers, if it fits in 64 bits. -/
def mulChecked (a b : Nat) : Except Fault Nat := if a * b < bound64 then .ok (a * b) else .error .overflow

/-- A number with one more decimal digit. -/
def appendDigit (n : Nat) (c : Char) : Except Fault Nat := do addChecked (← mulChecked n 10) (c.toNat - 48)

/-! ### Numbers -/

/-- Where the whole part of a number ends. -/
inductive WholeEnd where
  /-- At the unit, or at the end of the text. -/
  | name (place : Place)
  /-- At a decimal point at this offset; the place is behind it. -/
  | point (offset : Nat) (behind : Place)

/-- Reads on in the whole part of a number, of which `n` is read. -/
def whole (n offset : Nat) : List Char → Except Fault (Nat × WholeEnd)
  | [] => .ok (n, .name ⟨offset, []⟩)
  | c :: cs =>
    if c.isDigit then do whole (← appendDigit n c) (offset + c.utf8Size) cs
    else if Text.isBlank c then whole n (offset + c.utf8Size) cs
    else if isUnitLetter c then .ok (n, .name ⟨offset, c :: cs⟩)
    else if c = '.' then .ok (n, .point offset ⟨offset + c.utf8Size, cs⟩)
    else .error (.invalidCharacter offset)

/-- The digits behind a decimal point: the number they write and the power of ten they count in. -/
structure Fraction where
  numerator : Nat
  denominator : Nat

/-- Reads on in the digits behind a decimal point. The place of a fault is `mark`: the offset of the point until
    something behind it is read, then that of the character at fault. -/
def fraction (f : Fraction) (mark offset : Nat) : List Char → Except Fault (Fraction × Place)
  | [] => if f.denominator = 1 then .error (.invalidCharacter mark) else .ok (f, ⟨offset, []⟩)
  | c :: cs =>
    let next := offset + c.utf8Size
    if c.isDigit then do
      let denominator ← mulChecked f.denominator 10
      let numerator ← appendDigit f.numerator c
      fraction ⟨numerator, denominator⟩ next next cs
    else if Text.isBlank c then fraction f next next cs
    else if isUnitLetter c then
      if f.denominator = 1 then .error (.invalidCharacter mark) else .ok (f, ⟨offset, c :: cs⟩)
    else .error (.invalidCharacter mark)

/-! ### Units -/

/-- What stands behind the name of a unit. -/
inductive NameEnd where
  | finished
  /-- A digit, which begins the next number. -/
  | digit (d : Char) (behind : Place)
  /-- A blank; the place is behind it. -/
  | blank (behind : Place)

/-- Reads the name of a unit; its letters so far are kept in reverse. -/
def unitName (letters : List Char) (offset : Nat) : List Char → Except Fault (String × NameEnd)
  | [] => .ok (String.ofList letters.reverse, .finished)
  | c :: cs =>
    if isUnitLetter c then unitName (c :: letters) (offset + c.utf8Size) cs
    else if c.isDigit then .ok (String.ofList letters.reverse, .digit c ⟨offset + c.utf8Size, cs⟩)
    else if Text.isBlank c then .ok (String.ofList letters.reverse, .blank ⟨offset + c.utf8Size, cs⟩)
    else .error (.invalidCharacter offset)

/-! ### Sums -/

/-- A sum of spans: whole seconds and the nanoseconds past them. -/
structure Sum where
  seconds : Nat
  nanoseconds : Nat

/-- Adds seconds and nanoseconds to a sum; neither may leave 64 bits on the way. -/
def Sum.add (s : Sum) (seconds nanoseconds : Nat) : Except Fault Sum := do
  let nanoseconds ← addChecked s.nanoseconds nanoseconds
  let seconds ← addChecked seconds (nanoseconds / 1000000000)
  let seconds ← addChecked s.seconds seconds
  return ⟨seconds, nanoseconds % 1000000000⟩

/-- Adds an amount of a grain, divided exactly by `divisor`. -/
def Sum.addGrain (s : Sum) (amount divisor : Nat) : Unit.Grain → Except Fault Sum
  | .seconds n => do
    let scaled ← mulChecked amount n
    if scaled % divisor = 0 then s.add (scaled / divisor) 0 else .error .overflow
  | .nanoseconds n => do
    let scaled ← mulChecked amount n
    if scaled % divisor = 0 then s.add 0 (scaled / divisor) else .error .overflow

/-- Adds one span to a sum: the whole part first, then the fraction. -/
def Sum.addSpan (s : Sum) (n : Nat) (f : Option Fraction) (name : String) : Except Fault Sum :=
  match Unit.ofName? name with
  | none => .error (.unknownUnit name n)
  | some u => do
    let s ← s.addGrain n 1 u.grain
    match f with
    | none => return s
    | some f =>
      match u.fractionGrain? with
      | none => .error .overflow
      | some g => s.addGrain f.numerator f.denominator g

/-! ### Spans -/

/-- The first digit of the next number and the place behind it, if blanks alone do not end the text. A fault is placed
    where the search began. -/
def firstDigit (start offset : Nat) : List Char → Except Fault (Option (Char × Place))
  | [] => .ok none
  | c :: cs =>
    if c.isDigit then .ok (some (c, ⟨offset + c.utf8Size, cs⟩))
    else if Text.isBlank c then firstDigit start (offset + c.utf8Size) cs
    else .error (.numberExpected start)

/-- Reads one span, whose number begins with `n`: the number, its fraction, the unit's name and what ends it. -/
def span (n : Nat) (p : Place) : Except Fault (Nat × Option Fraction × String × NameEnd) := do
  let (n, ending) ← whole n p.offset p.rest
  match ending with
  | .name p =>
    let (name, ending) ← unitName [] p.offset p.rest
    return (n, none, name, ending)
  | .point offset behind =>
    let (f, p) ← fraction ⟨0, 1⟩ offset behind.offset behind.rest
    let (name, ending) ← unitName [] p.offset p.rest
    return (n, some f, name, ending)

/-- Reads spans until the text ends, at most `fuel` of them; every span takes at least one character. -/
def spans : (fuel : Nat) → Sum → Nat → Place → Except Fault Sum
  | 0, _, _, _ => .error .empty
  | fuel + 1, s, n, p => do
    let (n, f, name, ending) ← span n p
    let s ← s.addSpan n f name
    match ending with
    | .finished => return s
    | .digit d behind => spans fuel s (d.toNat - 48) behind
    | .blank behind =>
      match ← firstDigit behind.offset behind.offset behind.rest with
      | none => return s
      | some (d, behind) => spans fuel s (d.toNat - 48) behind

/-- Reads a written duration. A lone zero needs no unit. -/
def read (s : String) : Except Fault Duration := do
  if s = "0" then return ofSeconds 0
  let cs := s.toList
  match ← firstDigit 0 0 cs with
  | none => .error .empty
  | some (d, p) =>
    let sum ← spans (cs.length + 1) ⟨0, 0⟩ (d.toNat - 48) p
    match ofParts? sum.seconds sum.nanoseconds with
    | some d => return d
    | none => .error .overflow

end FieldClock.Duration
