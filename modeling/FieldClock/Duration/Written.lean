import FieldClock.Duration

/-!
# Written durations

The text of a duration: the parts that are not zero, from years down to nanoseconds, with a blank between them.
-/

namespace FieldClock.Duration

/-- A count with a name of its own for more than one; nothing for zero. -/
def plural (n : Nat) (name : String) : List String :=
  if n = 0 then [] else [toString n ++ name ++ (if n > 1 then "s" else "")]

/-- A count with the same name for any number; nothing for zero. -/
def counted (n : Nat) (name : String) : List String := if n = 0 then [] else [toString n ++ name]

/-- The parts of a written duration, the largest unit first. -/
def parts (d : Duration) : List String :=
  let yearRest := d.seconds % 31557600
  let monthRest := yearRest % 2630016
  let dayRest := monthRest % 86400
  plural (d.seconds / 31557600) "year" ++ plural (yearRest / 2630016) "month" ++ plural (monthRest / 86400) "day" ++
    counted (dayRest / 3600) "h" ++ counted (dayRest % 3600 / 60) "m" ++ counted (dayRest % 60) "s" ++
    counted (d.subsecond / 1000000) "ms" ++ counted (d.subsecond / 1000 % 1000) "us" ++
    counted (d.subsecond % 1000) "ns"

/-- The text of a duration. -/
def text (d : Duration) : String := if d.isZero then "0s" else " ".intercalate d.parts

end FieldClock.Duration
