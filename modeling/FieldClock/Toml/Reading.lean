import FieldClock.Toml.Scalar
import FieldClock.Toml.Table
import FieldClock.Toml.Text

/-!
# Reading documents

A document is a run of lines, each a key with a value, a header, or nothing but blanks and a comment. All ways in which a
text fails to be a document are alike.
-/

namespace FieldClock.Toml

/-! ### Blanks and comments -/

/-- Skips blanks within a line. -/
def skipWs (cs : List Char) : List Char := cs.dropWhile isWs

/-- Skips blanks, line breaks and comments, inside a comment or not. -/
def skipSpace (inComment : Bool) : List Char → List Char
  | [] => []
  | '\n' :: cs => skipSpace false cs
  | '\r' :: '\n' :: cs => skipSpace false cs
  | c :: cs =>
    if inComment then if isLineChar c then skipSpace true cs else c :: cs
    else if isWs c then skipSpace false cs
    else if c = '#' then skipSpace true cs
    else c :: cs

/-- What is left behind the end of a line, if nothing but blanks and a comment stands before it. -/
def endLine? (cs : List Char) : Option (List Char) :=
  let cs := match skipWs cs with
    | '#' :: comment => comment.dropWhile isLineChar
    | cs => cs
  if cs = [] then some [] else lineBreak? cs

/-! ### Keys -/

/-- Whether a character may stand in a key without quotes. -/
def isBareChar (c : Char) : Bool := c.isAlphanum || c == '_' || c == '-'

/-- Reads one part of a key. -/
def keyPart? (cs : List Char) : Option (String × List Char) :=
  match cs with
  | '"' :: cs => (Text.basic cs).map fun (text, rest) => (String.ofList text, rest)
  | '\'' :: cs => (Text.literal cs).map fun (text, rest) => (String.ofList text, rest)
  | cs =>
    let part := cs.takeWhile isBareChar
    if part = [] then none else some (String.ofList part, cs.dropWhile isBareChar)

/-- Reads the parts of a key with points between them, at most `fuel` of them. -/
def keyParts? : (fuel : Nat) → List Char → Option (List String × List Char)
  | 0, _ => none
  | fuel + 1, cs => do
    let (part, rest) ← keyPart? (skipWs cs)
    match skipWs rest with
    | '.' :: rest =>
      let (parts, rest) ← keyParts? fuel rest
      return (part :: parts, rest)
    | rest => return ([part], rest)

/-- How deep keys, arrays and inline tables may go. -/
def depthLimit : Nat := 79

/-- Reads a key with the blanks around it. -/
def key? (cs : List Char) : Option (List String × List Char) := keyParts? depthLimit cs

/-! ### Values -/

/-- A reader of something that begins here. -/
abbrev Reader (α : Type) := List Char → Option (α × List Char)

/-- Reads the items of an array behind its opening bracket or a comma, at most `fuel` of them. -/
def arrayItems (item : Reader Value) : (fuel : Nat) → Reader (List Value)
  | 0, _ => none
  | fuel + 1, cs =>
    match skipSpace false cs with
    | ']' :: rest => some ([], rest)
    | cs => do
      let (v, rest) ← item cs
      match skipSpace false rest with
      | ',' :: rest => (arrayItems item fuel rest).map fun (vs, rest) => (v :: vs, rest)
      | ']' :: rest => some ([v], rest)
      | _ => none

/-- Reads a key, the sign between and a value, with the blanks around all three. -/
def keyValue? (item : Reader Value) (cs : List Char) : Option ((List String × Value) × List Char) := do
  let (key, rest) ← key? cs
  match rest with
  | '=' :: rest =>
    let (v, rest) ← item (skipWs rest)
    return ((key, v), skipWs rest)
  | _ => none

/-- Reads the entries of an inline table, at least one and at most `fuel`, and its closing brace. -/
def inlineEntries (item : Reader Value) : (fuel : Nat) → Reader (List (List String × Value))
  | 0, _ => none
  | fuel + 1, cs => do
    let (e, rest) ← keyValue? item cs
    match rest with
    | ',' :: rest => (inlineEntries item fuel rest).map fun (es, rest) => (e :: es, rest)
    | '\x7d' :: rest => some ([e], rest)
    | _ => none

/-- Reads an inline table behind its opening brace. -/
def inlineTable (item : Reader Value) (cs : List Char) : Option (Value × List Char) :=
  match skipWs cs with
  | '\x7d' :: rest => some (.table .inline [], rest)
  | cs => do
    let (es, rest) ← inlineEntries item cs.length cs
    return (.table .inline (← Entries.ofInline es), rest)

/-- Reads a value that holds no others. -/
def flatValue? (cs : List Char) : Option (Value × List Char) :=
  match Text.read? cs with
  | some read => read.map fun (text, rest) => (.text (String.ofList text), rest)
  | none => Scalar.read? cs

/-- Reads a value in which arrays and inline tables go at most so deep. -/
def value? : (depth : Nat) → Reader Value
  | depth + 1, '[' :: cs =>
    (arrayItems (value? depth) (cs.length + 1) cs).map fun (vs, rest) => (.array false vs, rest)
  | depth + 1, '\x7b' :: cs => inlineTable (value? depth) cs
  | _, cs => flatValue? cs

/-! ### Lines -/

/-- Reads the key of a header and its closing bracket. -/
def headerKey? (cs : List Char) : Option (List String × List Char) := do
  match ← key? cs with
  | (path, ']' :: rest) => return (path, rest)
  | _ => none

/-- Reads a statement up to the end of its line. -/
def statement? (cs : List Char) : Option (Statement × List Char) :=
  match cs with
  | '[' :: '[' :: cs => do
    match ← headerKey? cs with
    | (path, ']' :: rest) => return (.element path, rest)
    | _ => none
  | '[' :: cs => do
    let (path, rest) ← headerKey? cs
    return (.header path, rest)
  | cs => do
    let ((key, v), rest) ← keyValue? (value? depthLimit) cs
    return (.entry key v, rest)

/-- Reads lines up to the end of the text, at most `fuel` of them. -/
def statements? : (fuel : Nat) → List Char → Option (List Statement)
  | 0, _ => none
  | fuel + 1, cs =>
    if cs = [] then some []
    else
      match endLine? cs with
      | some rest => statements? fuel rest
      | none => do
        let (s, rest) ← statement? (skipWs cs)
        let rest ← endLine? rest
        return s :: (← statements? fuel rest)

/-- A byte order mark at the start of a text is no part of it. -/
def dropMark : List Char → List Char
  | '\uFEFF' :: cs => cs
  | cs => cs

/-- Reads the lines of a document. -/
def readStatements (cs : List Char) : Option (List Statement) := statements? (cs.length + 1) (dropMark cs)

/-- Reads a document. -/
def read (s : String) : Option Entries := do assemble (← readStatements s.toList)

end FieldClock.Toml
