import FieldClock.Text.Numeral
import FieldClock.Toml.Text

/-!
# Writing texts

A text is written in the plainest of four ways that can hold it: in double quotes without an escape, in single quotes,
over several lines in either, and only then with escapes.
-/

namespace FieldClock.Toml.Quoting

/-- The longest run of a character in a text, or `run`, of which so many have just come. -/
def longestRun (c : Char) (run : Nat) : List Char → Nat
  | [] => run
  | d :: cs => if d = c then longestRun c (run + 1) cs else max run (longestRun c 0 cs)

/-- Whether a character can only be written as an escape: a control character other than the tab and the line break. -/
def needsEscape (c : Char) : Bool := (c.toNat < 0x20 && c != '\t' && c != '\n') || c.toNat == 0x7F

/-- The ways of writing a text. -/
inductive Style where
  | basic
  | literal
  | basicLines
  | literalLines
deriving DecidableEq

/-- The way in which a text is written. -/
def style (cs : List Char) : Style :=
  let escapes := cs.any needsEscape
  let backslash := cs.contains '\\'
  let lines := cs.contains '\n'
  let singles := longestRun '\'' 0 cs
  let doubles := longestRun '"' 0 cs
  if !escapes && !backslash && doubles == 0 && !lines then .basic
  else if !escapes && singles == 0 && !lines then .literal
  else if !escapes && !backslash && doubles ≤ 2 then .basicLines
  else if !escapes && singles ≤ 2 then .literalLines
  else if lines then .basicLines
  else .basic

/-- How one character other than a quote stands in a text with escapes. -/
def escapeChar (lines : Bool) (c : Char) : List Char :=
  if c = '\x08' then ['\\', 'b']
  else if c = '\t' then ['\\', 't']
  else if c = '\n' then if lines then ['\n'] else ['\\', 'n']
  else if c = '\x0c' then ['\\', 'f']
  else if c = '\r' then ['\\', 'r']
  else if c = '\\' then ['\\', '\\']
  else if needsEscape c then ['\\', 'u'] ++ Numeral.hexUpper 4 c.toNat
  else [c]

/-- The characters of a text with escapes. A quote is escaped if more than `allowed` of them would stand together; `run`
    of them have just been written. -/
def escape (lines : Bool) (allowed run : Nat) : List Char → List Char
  | [] => []
  | '"' :: cs =>
    if run < allowed then '"' :: escape lines allowed (run + 1) cs
    else '\\' :: '"' :: escape lines allowed 0 cs
  | c :: cs => escapeChar lines c ++ escape lines allowed 0 cs

/-- What stands before a text over several lines: a line break, if the text has one itself. -/
def firstBreak (cs : List Char) : List Char := if cs.contains '\n' then ['\n'] else []

/-- The characters of a text in a style, with its quotes. -/
def inStyle (cs : List Char) : Style → List Char
  | .basic => '"' :: escape false 0 0 cs ++ ['"']
  | .literal => '\'' :: cs ++ ['\'']
  | .basicLines => ['"', '"', '"'] ++ firstBreak cs ++ escape true 2 0 cs ++ ['"', '"', '"']
  | .literalLines => ['\'', '\'', '\''] ++ firstBreak cs ++ cs ++ ['\'', '\'', '\'']

/-- The characters of a written text. -/
def quote (s : String) : List Char := inStyle s.toList (style s.toList)

end FieldClock.Toml.Quoting
