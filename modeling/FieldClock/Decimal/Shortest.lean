import FieldClock.Decimal.Binary64

/-!
# Shortest decimals

The decimal with the fewest digits among those that round to a floating-point number, and of these the nearest to it, or
the larger of two that are equally near. It is written without a power of ten and always with a point.
-/

namespace FieldClock.Binary64

/-- Whether `a * 10 ^ p ≤ b * 2 ^ q`. -/
def decimalLe (a : Nat) (p : Int) (b : Nat) (q : Int) : Bool :=
  a * Nat.pow 10 p.toNat * Nat.pow 2 (-q).toNat ≤ b * Nat.pow 2 q.toNat * Nat.pow 10 (-p).toNat

/-- Whether `b * 2 ^ q ≤ a * 10 ^ p`. -/
def binaryLe (b : Nat) (q : Int) (a : Nat) (p : Int) : Bool :=
  b * Nat.pow 2 q.toNat * Nat.pow 10 (-p).toNat ≤ a * Nat.pow 10 p.toNat * Nat.pow 2 (-q).toNat

/-- Whether `a * 10 ^ p` rounds to `significand * 2 ^ exponent`. The ends of the interval belong to it if the
    significand is even; below a power of two it is half as wide. -/
def roundsTo (significand : Nat) (exponent : Int) (a : Nat) (p : Int) : Bool :=
  let isPower := significand == significandBound / 2 && minExponent < exponent
  let low := if isPower then 4 * significand - 1 else 4 * significand - 2
  let high := 4 * significand + 2
  let q := exponent - 2
  if significand % 2 = 0 then binaryLe low q a p && decimalLe a p high q
  else !decimalLe a p low q && !binaryLe high q a p

/-- The largest multiple of `10 ^ p` up to `significand * 2 ^ exponent`, in such multiples, and whether the next one is at
    least as near. -/
def below (significand : Nat) (exponent p : Int) : Nat × Bool :=
  let n := significand * Nat.pow 2 exponent.toNat * Nat.pow 10 (-p).toNat
  let d := Nat.pow 2 (-exponent).toNat * Nat.pow 10 p.toNat
  (n / d, 2 * (n % d) ≥ d)

/-- The power of ten of the first digit of `significand * 2 ^ exponent`. -/
def firstPlace (significand : Nat) (exponent : Int) : Int :=
  (Nat.toDigits 10 (below significand exponent (-400)).1).length - 401

/-- The first decimal that rounds to the number, looking at `count` digits and then at more, in multiples of a power of
    ten. -/
def search (significand : Nat) (exponent place : Int) : (fuel count : Nat) → Nat × Int
  | 0, count => ((below significand exponent (place - count + 1)).1, place - count + 1)
  | fuel + 1, count =>
    let p := place - count + 1
    let (floor, up) := below significand exponent p
    let lowFits := roundsTo significand exponent floor p
    let highFits := roundsTo significand exponent (floor + 1) p
    if lowFits && highFits then (if up then floor + 1 else floor, p)
    else if lowFits then (floor, p)
    else if highFits then (floor + 1, p)
    else search significand exponent place fuel (count + 1)

/-- The shortest decimal of a finite number that is not zero: its digits and the power of ten they count in. Seventeen
    digits are always enough. A number just below a power of ten has that as its decimal, in a single digit. -/
def shortest (significand : Nat) (exponent : Int) : Nat × Int :=
  let (digits, p) := search significand exponent (firstPlace significand exponent) 17 1
  if digits = 10 then (1, p + 1) else (digits, p)

/-- A decimal without a power of ten, with a point and at least one digit on both sides of it. -/
def positional (digits : List Char) (exponent : Int) : List Char :=
  if 0 ≤ exponent then digits ++ List.replicate exponent.toNat '0' ++ ['.', '0']
  else
    let places := (-exponent).toNat
    let digits := digits.leftpad (places + 1) '0'
    digits.take (digits.length - places) ++ '.' :: digits.drop (digits.length - places)

/-- The text of a floating-point number. -/
def text : Binary64 → String
  | .nan => "NaN"
  | .infinite negative => if negative then "-inf" else "inf"
  | .finite negative significand exponent =>
    let (digits, p) := if significand = 0 then (0, 0) else shortest significand exponent
    (if negative then "-" else "") ++ String.ofList (positional (Nat.toDigits 10 digits) p)

end FieldClock.Binary64
