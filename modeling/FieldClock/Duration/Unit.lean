/-!
# Units of a written duration

The units that a written duration may use and the names they go by. A month is a twelfth of a year of 365.25 days,
rounded to 30.44 days.
-/

namespace FieldClock.Duration

/-- A unit of time. -/
inductive Unit where
  | nanosecond | microsecond | millisecond | second | minute | hour | day | week | month | year
deriving DecidableEq

namespace Unit

/-- The unit that a name stands for. Names are exact: `m` is a minute and `M` a month. -/
def ofName? (name : String) : Option Unit :=
  if name ∈ ["nanos", "nsec", "ns"] then some nanosecond
  else if name ∈ ["usec", "us", "µs"] then some microsecond
  else if name ∈ ["millis", "msec", "ms"] then some millisecond
  else if name ∈ ["seconds", "second", "secs", "sec", "s"] then some second
  else if name ∈ ["minutes", "minute", "min", "mins", "m"] then some minute
  else if name ∈ ["hours", "hour", "hrs", "hr", "h"] then some hour
  else if name ∈ ["days", "day", "d"] then some day
  else if name ∈ ["weeks", "week", "wks", "wk", "w"] then some week
  else if name ∈ ["months", "month", "M"] then some month
  else if name ∈ ["years", "year", "yrs", "yr", "y"] then some year
  else none

/-- How many of which grain, seconds or nanoseconds, make one unit. -/
inductive Grain where
  | seconds (n : Nat)
  | nanoseconds (n : Nat)

/-- What a whole number of a unit is counted in: nanoseconds below a second, else seconds. -/
def grain : Unit → Grain
  | nanosecond => .nanoseconds 1
  | microsecond => .nanoseconds 1000
  | millisecond => .nanoseconds 1000000
  | second => .seconds 1
  | minute => .seconds 60
  | hour => .seconds 3600
  | day => .seconds 86400
  | week => .seconds 604800
  | month => .seconds 2630016
  | year => .seconds 31557600

/-- What a fraction of a unit is counted in: nanoseconds up to a minute, else seconds. A nanosecond has no fractions. -/
def fractionGrain? : Unit → Option Grain
  | nanosecond => none
  | second => some (.nanoseconds 1000000000)
  | minute => some (.nanoseconds 60000000000)
  | u => some u.grain

end Unit

end FieldClock.Duration
