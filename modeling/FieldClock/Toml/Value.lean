import FieldClock.Decimal.Binary64

/-!
# TOML values

The values of a document. Tables and arrays remember how they came about, because that decides what later lines of the
document may still add to them.
-/

namespace FieldClock.Toml

/-- How a table came about. -/
inductive Origin where
  /-- By its own header, or as the document itself. -/
  | header
  /-- By the header of a table inside it; its own header may follow. -/
  | implied
  /-- By a dotted key. -/
  | dotted
  /-- Between braces; nothing can be added. -/
  | inline
deriving DecidableEq

/-- A value. -/
inductive Value where
  | text (s : String)
  | integer (n : Int)
  | float (x : Binary64)
  | boolean (b : Bool)
  /-- A date, a time or both. No setting is one, so only its kind is kept. -/
  | moment
  /-- An array; `open_` tells whether headers made it, so that a header may add to it. -/
  | array (open_ : Bool) (items : List Value)
  | table (origin : Origin) (entries : List (String × Value))

/-- The entries of a table, in the order in which they came. -/
abbrev Entries := List (String × Value)

namespace Entries

/-- The value of a key. -/
def get? (key : String) (t : Entries) : Option Value := (t.find? (·.1 = key)).map (·.2)

/-- Gives a key that is there another value, in its place. -/
def replace (key : String) (v : Value) (t : Entries) : Entries := t.map fun e => if e.1 = key then (key, v) else e

/-- Takes a key away. -/
def erase (key : String) (t : Entries) : Entries := t.filter (·.1 ≠ key)

end Entries

end FieldClock.Toml
