import FieldClock.Calendar
import FieldClock.Text.Numeral
import FieldClock.Toml.Value

/-!
# Numbers, truth values and moments

Values without quotes or brackets are words of letters, digits and a few marks. A word is read as a whole.
-/

namespace FieldClock.Toml.Scalar

/-- Whether a character can stand in a word. -/
def isWordChar (c : Char) : Bool :=
  c.isAlphanum || c == '_' || c == '+' || c == '-' || c == '.' || c == ':'

/-! ### Digits -/

/-- The digits of a run in which an underscore may stand between two digits, or none if it is no such run. -/
def digits? (isDigit : Char → Bool) : List Char → Option (List Char)
  | [] => none
  | [c] => if isDigit c then some [c] else none
  | c :: '_' :: rest => if isDigit c then (digits? isDigit rest).map (c :: ·) else none
  | c :: rest => if isDigit c then (digits? isDigit rest).map (c :: ·) else none

/-- Splits a sign off a word. -/
def takeSign : List Char → Bool × List Char
  | '+' :: cs => (false, cs)
  | '-' :: cs => (true, cs)
  | cs => (false, cs)

/-- The digits of a decimal number without a leading zero. -/
def plainDigits? (cs : List Char) : Option (List Char) :=
  match cs with
  | '0' :: _ :: _ => none
  | cs => digits? Char.isDigit cs

/-! ### Whole numbers -/

/-- The number that digits write in a base. -/
def number? (base : Nat) (cs : List Char) : Option Nat := do
  let isDigit c := match Numeral.hexValue? c with
    | some d => decide (d < base)
    | none => false
  let ds ← digits? isDigit cs
  return ds.foldl (fun n c => n * base + (Numeral.hexValue? c).getD 0) 0

/-- Reads a whole number that fits in 64 bits with its sign. -/
def integer? (cs : List Char) : Option Int :=
  let inRange (n : Int) : Option Int :=
    if -9223372036854775808 ≤ n ∧ n ≤ 9223372036854775807 then some n else none
  match cs with
  | '0' :: 'x' :: cs => do inRange (← number? 16 cs)
  | '0' :: 'o' :: cs => do inRange (← number? 8 cs)
  | '0' :: 'b' :: cs => do inRange (← number? 2 cs)
  | cs => do
    let (negative, cs) := takeSign cs
    let n : Int := Numeral.value (← plainDigits? cs)
    inRange (if negative then -n else n)

/-! ### Floating-point numbers -/

/-- The parts of a word before and behind the first character that satisfies `p`; the latter is `none` without one. -/
def splitAt (p : Char → Bool) (cs : List Char) : List Char × Option (List Char) :=
  match cs.dropWhile (!p ·) with
  | [] => (cs, none)
  | _ :: behind => (cs.takeWhile (!p ·), some behind)

/-- The power of ten behind an `e`. -/
def power? (cs : List Char) : Option Int := do
  let (negative, cs) := takeSign cs
  let n : Int := Numeral.value (← digits? Char.isDigit cs)
  return if negative then -n else n

/-- Reads a number with a point or a power of ten. One that is too large is refused, but only if it is positive. -/
def float? (cs : List Char) : Option Binary64 := do
  let (negative, cs) := takeSign cs
  if cs = ['i', 'n', 'f'] then return .infinite negative
  if cs = ['n', 'a', 'n'] then return .nan
  let (mantissa, power) := splitAt (fun c => c == 'e' || c == 'E') cs
  let (whole, fraction) := splitAt (· == '.') mantissa
  if power.isNone && fraction.isNone then none
  let whole ← plainDigits? whole
  let fraction ← match fraction with
    | none => some []
    | some cs => digits? Char.isDigit cs
  let power ← match power with
    | none => some 0
    | some cs => power? cs
  let x := Binary64.ofDecimal negative (Numeral.value (whole ++ fraction)) (power - fraction.length)
  if x = .infinite false then none else some x

/-! ### Dates and times -/

/-- The value of exactly `width` digits. -/
def fixed? (width : Nat) (cs : List Char) : Option Nat :=
  if cs.length = width ∧ cs.all Char.isDigit then some (Numeral.value cs) else none

/-- Whether a word is a date of the calendar. -/
def isDate : List Char → Bool
  | [y₁, y₂, y₃, y₄, '-', m₁, m₂, '-', d₁, d₂] =>
    match fixed? 4 [y₁, y₂, y₃, y₄], fixed? 2 [m₁, m₂], fixed? 2 [d₁, d₂] with
    | some year, some month, some day =>
      1 ≤ month && 1 ≤ day && day ≤ (Calendar.monthLengths (Calendar.isLeap year)).getD (month - 1) 0
    | _, _, _ => false
  | _ => false

/-- Whether a word begins with an hour and a minute, and what is left of it. -/
def hourAndMinute? : List Char → Option (List Char)
  | h₁ :: h₂ :: ':' :: m₁ :: m₂ :: rest => do
    let hour ← fixed? 2 [h₁, h₂]
    let minute ← fixed? 2 [m₁, m₂]
    if hour < 24 ∧ minute < 60 then some rest else none
  | _ => none

/-- Whether a word begins with a time of day, and what is left of it. A second may be the 60th, and have a fraction. -/
def time? (cs : List Char) : Option (List Char) := do
  match ← hourAndMinute? cs with
  | ':' :: s₁ :: s₂ :: rest =>
    let second ← fixed? 2 [s₁, s₂]
    if second > 60 then none
    match rest with
    | '.' :: rest =>
      if (rest.takeWhile Char.isDigit).isEmpty then none else some (rest.dropWhile Char.isDigit)
    | rest => some rest
  | _ => none

/-- Whether a word is a time of day. -/
def isTime (cs : List Char) : Bool := time? cs == some []

/-- Whether a word is a distance from universal time. -/
def isOffset : List Char → Bool
  | ['Z'] => true
  | ['z'] => true
  | '+' :: cs => hourAndMinute? cs == some []
  | '-' :: cs => hourAndMinute? cs == some []
  | _ => false

/-- Whether a word is a time of day, alone or with its distance from universal time. -/
def isTimeWithOffset (cs : List Char) : Bool :=
  match time? cs with
  | some [] => true
  | some offset => isOffset offset
  | none => false

/-- Whether a word is a date and a time. -/
def isDateTime (cs : List Char) : Bool :=
  isDate (cs.take 10) &&
    match cs.drop 10 with
    | 'T' :: time => isTimeWithOffset time
    | 't' :: time => isTimeWithOffset time
    | _ => false

/-! ### Words -/

/-- Reads a word. -/
def word? (cs : List Char) : Option Value :=
  if cs = ['t', 'r', 'u', 'e'] then some (.boolean true)
  else if cs = ['f', 'a', 'l', 's', 'e'] then some (.boolean false)
  else if isDate cs || isTime cs || isDateTime cs then some .moment
  else
    match integer? cs with
    | some n => some (.integer n)
    | none => (float? cs).map .float

/-- Reads the word that begins here. A date may be followed by a blank and a time; a digit behind that blank can be
    nothing else. -/
def read? (cs : List Char) : Option (Value × List Char) :=
  let word := cs.takeWhile isWordChar
  let rest := cs.dropWhile isWordChar
  match isDate word, rest with
  | true, ' ' :: c :: behind =>
    if c.isDigit then
      let time := (c :: behind).takeWhile isWordChar
      if isTimeWithOffset time then some (.moment, (c :: behind).dropWhile isWordChar) else none
    else some (.moment, rest)
  | _, _ => (word? word).map (·, rest)

end FieldClock.Toml.Scalar
