/-!
# JSON text

The part of JSON that reports use: texts, whole numbers and objects. An object is written without blanks, its members in
the order they have.
-/

namespace FieldClock

mutual

/-- A JSON value. -/
inductive Json where
  | text (s : String)
  | number (n : Int)
  | object (members : Members)

/-- The members of an object, in order. -/
inductive Members where
  | nil
  | cons (name : String) (value : Json) (rest : Members)

end

/-- Members followed by others. -/
def Members.append : Members → Members → Members
  | .nil, others => others
  | .cons name value rest, others => .cons name value (rest.append others)

/-- One member. -/
def Members.one (name : String) (value : Json) : Members := .cons name value .nil

/-- One member, or none if it has no value. -/
def Members.optional {α : Type} (name : String) (value : α → Json) : Option α → Members
  | some a => .one name (value a)
  | none => .nil

namespace Json

/-- How one character stands inside a text: quotes, backslashes and control characters are escaped. -/
def encodeChar (c : Char) : List Char :=
  match c with
  | '"' => ['\\', '"']
  | '\\' => ['\\', '\\']
  | '\x08' => ['\\', 'b']
  | '\x0c' => ['\\', 'f']
  | '\n' => ['\\', 'n']
  | '\r' => ['\\', 'r']
  | '\t' => ['\\', 't']
  | c =>
    if c.toNat < 0x20 then
      ['\\', 'u', '0', '0', Nat.digitChar (c.toNat / 16), Nat.digitChar (c.toNat % 16)]
    else [c]

/-- The characters of a text, between quotes. -/
def textChars (s : String) : List Char := '"' :: s.toList.flatMap encodeChar ++ ['"']

/-- The characters of a whole number. -/
def numberChars (n : Int) : List Char :=
  if n < 0 then '-' :: Nat.toDigits 10 n.natAbs else Nat.toDigits 10 n.natAbs

mutual

/-- The characters of a value. -/
def chars : Json → List Char
  | .text s => textChars s
  | .number n => numberChars n
  | .object members => '\x7b' :: memberChars true members ++ ['\x7d']

/-- The characters of members, with a comma before each but the first. -/
def memberChars (first : Bool) : Members → List Char
  | .nil => []
  | .cons name value rest =>
    (if first then [] else [',']) ++ textChars name ++ ':' :: chars value ++ memberChars false rest

end

/-- The text of a value. -/
def render (j : Json) : String := String.ofList j.chars

end Json

end FieldClock
