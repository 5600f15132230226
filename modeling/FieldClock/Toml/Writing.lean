import FieldClock.Toml.Quoting
import FieldClock.Toml.Table

/-!
# Writing documents

The part of a document that settings are written in: blocks of lines, each block but the first under a header and behind an
empty line. What a written document means is given beside what it looks like.
-/

namespace FieldClock.Toml

/-- A value that is written. -/
inductive Item where
  | text (s : String)
  | number (n : Nat)
  | flag (b : Bool)
  | emptyArray
deriving DecidableEq

namespace Item

/-- The value of an item. -/
def value : Item → Value
  | .text s => .text s
  | .number n => .integer n
  | .flag b => .boolean b
  | .emptyArray => .array false []

/-- The characters of an item. -/
def chars : Item → List Char
  | .text s => Quoting.quote s
  | .number n => Nat.toDigits 10 n
  | .flag true => ['t', 'r', 'u', 'e']
  | .flag false => ['f', 'a', 'l', 's', 'e']
  | .emptyArray => ['[', ']']

end Item

/-- What a block stands under. -/
inductive Heading where
  | document
  | table (name : String)
  | element (name : String)
deriving DecidableEq

namespace Heading

/-- The characters of a heading, from the empty line before it to the end of its line. -/
def chars : Heading → List Char
  | .document => []
  | .table name => '\n' :: '[' :: name.toList ++ [']', '\n']
  | .element name => '\n' :: '[' :: '[' :: name.toList ++ [']', ']', '\n']

/-- The statement of a heading. -/
def statements : Heading → List Statement
  | .document => []
  | .table name => [.header [name]]
  | .element name => [.element [name]]

end Heading

/-- A block: its heading, and its lines with a key and an item each. -/
structure Block where
  heading : Heading
  lines : List (String × Item)
deriving DecidableEq

namespace Block

/-- The characters of a line. -/
def lineChars (line : String × Item) : List Char := line.1.toList ++ [' ', '=', ' '] ++ line.2.chars ++ ['\n']

/-- The characters of a block. -/
def chars (b : Block) : List Char := b.heading.chars ++ b.lines.flatMap lineChars

/-- The statements of a block. -/
def statements (b : Block) : List Statement :=
  b.heading.statements ++ b.lines.map fun line => .entry [line.1] line.2.value

end Block

/-- The text of a document of blocks. -/
def write (blocks : List Block) : String := String.ofList (blocks.flatMap Block.chars)

end FieldClock.Toml
