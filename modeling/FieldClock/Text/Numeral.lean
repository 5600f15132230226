/-!
# Numerals

Numbers as they stand in text: a run of decimal digits, the bounded numeral of ports and unit numbers, decimal text
padded to a width, and hexadecimal digits.
-/

namespace FieldClock.Numeral

/-- Whether `cs` is a run of one or more decimal digits. -/
def isDigits (cs : List Char) : Bool := !cs.isEmpty && cs.all Char.isDigit

/-- The number that a run of decimal digits writes. -/
def value (cs : List Char) : Nat := Nat.ofDigitChars 10 cs 0

/-- Takes one plus sign off the front. -/
def dropPlus : List Char → List Char
  | '+' :: cs => cs
  | cs => cs

/-- Reads an optional plus sign and one or more decimal digits whose value is at most `bound`. Leading zeros do not
    count against the bound. -/
def readUpTo (bound : Nat) (cs : List Char) : Option Nat :=
  let digits := dropPlus cs
  if isDigits digits && value digits ≤ bound then some (value digits) else none

/-- The decimal text of `n`, with zeros in front up to `width` characters. -/
def padded (width n : Nat) : List Char := (Nat.toDigits 10 n).leftpad width '0'

/-- The decimal text of an integer, with a minus sign if it is negative. -/
def signed (n : Int) : String := if n < 0 then "-" ++ toString n.natAbs else toString n.natAbs

/-! ### Hexadecimal digits -/

/-- The value of a hexadecimal digit, in either case. -/
def hexValue? (c : Char) : Option Nat :=
  if c.isDigit then some (c.toNat - 48)
  else if 'a' ≤ c ∧ c ≤ 'f' then some (c.toNat - 87)
  else if 'A' ≤ c ∧ c ≤ 'F' then some (c.toNat - 55)
  else none

/-- The number that a run of hexadecimal digits writes. -/
def hexNumber? (cs : List Char) : Option Nat :=
  cs.foldl (fun n c => n.bind fun n => (hexValue? c).map (n * 16 + ·)) (some 0)

/-- The last `width` hexadecimal digits of `n` in lower case. -/
def hexLower : Nat → Nat → List Char
  | 0, _ => []
  | width + 1, n => hexLower width (n / 16) ++ [Nat.digitChar (n % 16)]

/-- The last `width` hexadecimal digits of `n` in upper case. -/
def hexUpper (width n : Nat) : List Char := (hexLower width n).map Char.toUpper

end FieldClock.Numeral
