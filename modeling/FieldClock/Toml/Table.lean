import FieldClock.Toml.Value

/-!
# Building tables

What the lines of a document make of its tables. A key is defined once. A table has one header; dotted keys build tables
of their own, which headers cannot redefine, though headers may name tables inside them.
-/

namespace FieldClock.Toml

namespace Entries

/-- Follows a path of keys and changes the entries found there, with an answer. A table that is missing is made: by a
    dotted key if `dotted`, else by the header of a table inside it. A path through an array that headers made goes to its
    last table. -/
def descend {β : Type} (dotted : Bool) (change : Origin → Entries → Option (β × Entries)) :
    List String → Origin → Entries → Option (β × Entries)
  | [], origin, t => change origin t
  | key :: path, _, t =>
    match t.get? key with
    | none => do
      let origin := if dotted then Origin.dotted else Origin.implied
      let (answer, inner) ← descend dotted change path origin []
      return (answer, t ++ [(key, .table origin inner)])
    | some (.table origin inner) =>
      if origin = .inline ∨ dotted ∧ origin = .header then none
      else do
        let (answer, inner) ← descend dotted change path origin inner
        return (answer, t.replace key (.table origin inner))
    | some (.array true items) =>
      match items.getLast? with
      | some (.table origin inner) => do
        let (answer, inner) ← descend dotted change path origin inner
        return (answer, t.replace key (.array true (items.dropLast ++ [.table origin inner])))
      | _ => none
    | some _ => none

/-- Adds a key that is not there yet. -/
def insertNew (key : String) (v : Value) (t : Entries) : Option Entries :=
  match t.get? key with
  | none => some (t ++ [(key, v)])
  | some _ => none

/-- Defines a key by its parts, at least one. A key with more than one part goes only into a table that dotted keys
    made. -/
def define (key : List String) (v : Value) (t : Entries) : Option Entries :=
  match key.getLast? with
  | none => none
  | some last =>
    let path := key.dropLast
    let change (origin : Origin) (inner : Entries) : Option (Unit × Entries) :=
      if (origin == .dotted) == path.isEmpty then none else (insertNew last v inner).map ((), ·)
    (descend true change path .header t).map (·.2)

/-- Defines keys in order, in a table between braces. -/
def ofInline (entries : List (List String × Value)) : Option Entries :=
  entries.foldlM (fun t (key, v) => define key v t) []

end Entries

/-! ### Documents -/

/-- A line of a document. -/
inductive Statement where
  | entry (key : List String) (value : Value)
  /-- The header of a table. -/
  | header (path : List String)
  /-- The header of one more table in an array. -/
  | element (path : List String)

/-- A document being put together: what is finished, and the table that lines add to now with its place. -/
structure Assembly where
  root : Entries := []
  path : List String := []
  isElement : Bool := false
  current : Entries := []

namespace Assembly

/-- Changes the table that a path without its last key leads to. -/
def inParent {β : Type} (path : List String) (change : String → Entries → Option (β × Entries)) (root : Entries) :
    Option (β × Entries) :=
  match path.getLast? with
  | none => none
  | some last => root.descend false (fun _ t => change last t) path.dropLast .header

/-- Adds one more table to an array that headers made. -/
def pushElement (element : Entries) (key : String) (t : Entries) : Option (Unit × Entries) :=
  match t.get? key with
  | none => some ((), t ++ [(key, .array true [.table .header element])])
  | some (.array true items) => some ((), t.replace key (.array true (items ++ [.table .header element])))
  | some _ => none

/-- Puts a table that a header announced in its place, as the last entry. -/
def putTable (table : Entries) (key : String) (t : Entries) : Option (Unit × Entries) :=
  (t.insertNew key (.table .header table)).map ((), ·)

/-- Puts the current table in its place. -/
def finish (a : Assembly) : Option Entries :=
  if a.path = [] then some a.current
  else if a.isElement then (inParent a.path (pushElement a.current) a.root).map (·.2)
  else (inParent a.path (putTable a.current) a.root).map (·.2)

/-- Makes room for a table with a header and says what it holds already. A table that was only implied so far is taken
    out; any other value in its place is in the way. -/
def takeImplied (key : String) (t : Entries) : Option (Entries × Entries) :=
  match t.get? key with
  | none => some ([], t)
  | some (.table .implied inner) => some (inner, t.erase key)
  | some _ => none

/-- Makes room for one more table in an array that headers made. -/
def openElement (key : String) (t : Entries) : Option (Unit × Entries) :=
  match t.get? key with
  | none => some ((), t ++ [(key, .array true [])])
  | some (.array true _) => some ((), t)
  | some _ => none

/-- Takes one line in. -/
def step (a : Assembly) : Statement → Option Assembly
  | .entry key v => do return { a with current := ← a.current.define key v }
  | .header path => do
    let (current, root) ← inParent path takeImplied (← a.finish)
    return { root, path, current }
  | .element path => do
    let (_, root) ← inParent path openElement (← a.finish)
    return { root, path, isElement := true }

end Assembly

/-- The table that the lines of a document make. -/
def assemble (statements : List Statement) : Option Entries := do
  let a ← statements.foldlM Assembly.step {}
  a.finish

end FieldClock.Toml
