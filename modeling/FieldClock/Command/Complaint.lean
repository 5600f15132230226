/-!
# Complaints

What the program says when it stops: what it was about, and under that the causes, the outermost first. Several causes are
numbered from 0.
-/

namespace FieldClock.Command

/-- What the program was about when it stopped, and why it did. -/
structure Complaint where
  context : String
  causes : List String
deriving DecidableEq

namespace Complaint

/-- A text with every line but the first one indented. -/
def indented (indent : List Char) (text : String) : List Char :=
  text.toList.flatMap fun c => if c = '\n' then '\n' :: indent else [c]

/-- The lines of a single cause. -/
def causeText (cause : String) : List Char :=
  '\n' :: List.replicate 4 ' ' ++ indented (List.replicate 4 ' ') cause

/-- The lines of a cause with its number, which takes five places. -/
def numberedText (number : Nat) (cause : String) : List Char :=
  '\n' :: (Nat.toDigits 10 number).leftpad 5 ' ' ++ [':', ' '] ++ indented (List.replicate 7 ' ') cause

/-- The lines of numbered causes, of which the first has this number. -/
def numberedTexts (number : Nat) : List String → List Char
  | [] => []
  | cause :: rest => numberedText number cause ++ numberedTexts (number + 1) rest

/-- The lines of all causes. -/
def causesText : List String → List Char
  | [cause] => causeText cause
  | causes => numberedTexts 0 causes

/-- The text of a complaint. -/
def text (c : Complaint) : String :=
  "Error: " ++ c.context ++ "\n\nCaused by:" ++ String.ofList (causesText c.causes) ++ "\n"

end Complaint

end FieldClock.Command
