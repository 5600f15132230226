import FieldClock.Text.Hidden

/-!
# Quoted text in messages

A message that names a piece of the reader's text puts it between double quotes, with quotes, backslashes and
characters that cannot be seen written as escapes.
-/

namespace FieldClock.Text.Quoted

/-- How one character stands inside a quoted text. -/
def encodeChar (c : Char) : List Char :=
  match c with
  | '\x00' => ['\\', '0']
  | '\t' => ['\\', 't']
  | '\n' => ['\\', 'n']
  | '\r' => ['\\', 'r']
  | '"' => ['\\', '"']
  | '\\' => ['\\', '\\']
  | c => if isHidden c then ['\\', 'u', '\x7b'] ++ Nat.toDigits 16 c.toNat ++ ['\x7d'] else [c]

/-- A text between double quotes. -/
def encode (s : String) : String := String.ofList ('"' :: s.toList.flatMap encodeChar ++ ['"'])

end FieldClock.Text.Quoted
