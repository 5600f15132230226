/-!
# Floating-point numbers

A number of 64 bits is a sign, a whole significand below 2 ^ 53 and a power of two. A decimal is rounded to the nearest
one, and to the one with an even significand if it lies half way between two.
-/

namespace FieldClock

/-- A floating-point number of 64 bits; a finite one is `significand * 2 ^ exponent` with its sign. -/
inductive Binary64 where
  | nan
  | infinite (negative : Bool)
  | finite (negative : Bool) (significand : Nat) (exponent : Int)
deriving DecidableEq

namespace Binary64

/-- Significands are below this, which is 2 ^ 53. -/
def significandBound : Nat := 9007199254740992

/-- The exponent of the smallest numbers. -/
def minExponent : Int := -1074

/-- The exponent of the largest numbers. -/
def maxExponent : Int := 971

/-- `n * b ^ e` over `d * b ^ (-e)`, with no power below 1. -/
def scale (b n d : Nat) (e : Int) : Nat × Nat := (n * b.pow e.toNat, d * b.pow (-e).toNat)

/-- The quotient of two numbers, rounded to the nearest; a half goes to the even neighbour. -/
def divideToEven (n d : Nat) : Nat :=
  let q := n / d
  let r := n % d
  if 2 * r < d then q else if 2 * r > d then q + 1 else q + q % 2

/-- The number nearest to `n / d`. -/
def ofRatio (negative : Bool) (n d : Nat) : Binary64 :=
  if n = 0 then .finite negative 0 minExponent
  else
    let low := max ((Nat.log2 n : Int) - Nat.log2 d - 53) minExponent
    let (ln, ld) := scale 2 n d (-low)
    let exponent := if significandBound ≤ ln / ld then low + 1 else low
    let (sn, sd) := scale 2 n d (-exponent)
    let rounded := divideToEven sn sd
    let (significand, exponent) := if rounded = significandBound then (significandBound / 2, exponent + 1) else (rounded, exponent)
    if exponent > maxExponent then .infinite negative else .finite negative significand exponent

/-- The number nearest to `digits * 10 ^ exponent`. Beyond 400 places before or behind the point the answer is known
    without computing the power. -/
def ofDecimal (negative : Bool) (digits : Nat) (exponent : Int) : Binary64 :=
  let places := (Nat.toDigits 10 digits).length + exponent
  if digits = 0 ∨ places < -400 then .finite negative 0 minExponent
  else if places > 400 then .infinite negative
  else
    let (n, d) := scale 10 digits 1 exponent
    ofRatio negative n d

end Binary64

end FieldClock
