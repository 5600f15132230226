import FieldClock.Text.Numeral

/-!
# Reading texts

The four ways in which a document writes a text: on one line or on several, with escapes or without. Each reader starts
behind the opening quotes and ends behind the closing ones.
-/

namespace FieldClock.Toml

/-- Whether a character is a blank within a line. -/
def isWs (c : Char) : Bool := c == ' ' || c == '\t'

/-- Whether a character may stand in a comment or in a text on one line: no control character but the tab. -/
def isLineChar (c : Char) : Bool := c == '\t' || (0x20 ≤ c.toNat && c.toNat != 0x7F)

/-- What is left of a text behind a line break, if it begins with one. -/
def lineBreak? : List Char → Option (List Char)
  | '\n' :: cs => some cs
  | '\r' :: '\n' :: cs => some cs
  | _ => none

namespace Text

/-- Puts a character in front of a text that was read. -/
def cons (c : Char) (r : Option (List Char × List Char)) : Option (List Char × List Char) :=
  r.map fun (text, rest) => (c :: text, rest)

/-- The character of an escape with one letter. -/
def escape? (c : Char) : Option Char :=
  if c = 'b' then some '\x08'
  else if c = 't' then some '\t'
  else if c = 'n' then some '\n'
  else if c = 'f' then some '\x0c'
  else if c = 'r' then some '\r'
  else if c = '"' then some '"'
  else if c = '\\' then some '\\'
  else none

/-- The character with a number in hexadecimal digits; surrogates are no characters. -/
def numbered? (digits : List Char) : Option Char := do
  let n ← Numeral.hexNumber? digits
  if n < 0xD800 ∨ 0xE000 ≤ n ∧ n < 0x110000 then some (Char.ofNat n) else none

/-- Reads a text with escapes on one line. -/
def basic : List Char → Option (List Char × List Char)
  | [] => none
  | '"' :: cs => some ([], cs)
  | '\\' :: 'u' :: a :: b :: c :: d :: cs => do cons (← numbered? [a, b, c, d]) (basic cs)
  | '\\' :: 'U' :: a :: b :: c :: d :: e :: f :: g :: h :: cs => do
    cons (← numbered? [a, b, c, d, e, f, g, h]) (basic cs)
  | '\\' :: c :: cs => do cons (← escape? c) (basic cs)
  | c :: cs => if isLineChar c && c != '\\' then cons c (basic cs) else none

/-- Reads a text without escapes on one line. -/
def literal : List Char → Option (List Char × List Char)
  | [] => none
  | '\'' :: cs => some ([], cs)
  | c :: cs => if isLineChar c then cons c (literal cs) else none

/-- Whether a line holds nothing more but blanks. -/
def restIsBlank (cs : List Char) : Bool := (lineBreak? (cs.dropWhile isWs)).isSome

/-- Reads a text with escapes on several lines. A backslash at the end of a line is left out with all blanks and line
    breaks behind it, which `skipping` tells. Up to two quotes may stand right before the closing three. -/
def basicLines (skipping : Bool) : List Char → Option (List Char × List Char)
  | [] => none
  | '"' :: '"' :: '"' :: '"' :: '"' :: cs => some (['"', '"'], cs)
  | '"' :: '"' :: '"' :: '"' :: cs => some (['"'], cs)
  | '"' :: '"' :: '"' :: cs => some ([], cs)
  | '\n' :: cs => if skipping then basicLines true cs else cons '\n' (basicLines false cs)
  | '\r' :: '\n' :: cs => if skipping then basicLines true cs else cons '\n' (basicLines false cs)
  | '\\' :: 'u' :: a :: b :: c :: d :: cs => do cons (← numbered? [a, b, c, d]) (basicLines false cs)
  | '\\' :: 'U' :: a :: b :: c :: d :: e :: f :: g :: h :: cs => do
    cons (← numbered? [a, b, c, d, e, f, g, h]) (basicLines false cs)
  | '\\' :: c :: cs =>
    if restIsBlank (c :: cs) then basicLines true (c :: cs)
    else do cons (← escape? c) (basicLines false cs)
  | c :: cs =>
    if skipping && isWs c then basicLines true cs
    else if isLineChar c && c != '\\' then cons c (basicLines false cs)
    else none

/-- Reads a text without escapes on several lines. -/
def literalLines : List Char → Option (List Char × List Char)
  | [] => none
  | '\'' :: '\'' :: '\'' :: '\'' :: '\'' :: cs => some (['\'', '\''], cs)
  | '\'' :: '\'' :: '\'' :: '\'' :: cs => some (['\''], cs)
  | '\'' :: '\'' :: '\'' :: cs => some ([], cs)
  | '\n' :: cs => cons '\n' (literalLines cs)
  | '\r' :: '\n' :: cs => cons '\n' (literalLines cs)
  | c :: cs => if isLineChar c then cons c (literalLines cs) else none

/-- A line break right behind the opening quotes is no part of a text on several lines. -/
def dropFirstBreak (cs : List Char) : List Char := (lineBreak? cs).getD cs

/-- Reads a text in any of the four ways, if one begins here. -/
def read? : List Char → Option (Option (List Char × List Char))
  | '"' :: '"' :: '"' :: cs => some (basicLines false (dropFirstBreak cs))
  | '"' :: cs => some (basic cs)
  | '\'' :: '\'' :: '\'' :: cs => some (literalLines (dropFirstBreak cs))
  | '\'' :: cs => some (literal cs)
  | _ => none

end Text

end FieldClock.Toml
