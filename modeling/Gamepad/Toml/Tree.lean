import Gamepad.Toml.Value

/-!
Tables under construction. A table remembers what brought it about, because a header may not open
a table twice and a dotted key may not add to a table that a header opened.
-/

namespace Gamepad.Toml

inductive Origin
  /-- Opened by a header of its own. -/
  | header
  /-- Passed on the way to the table of a longer header. -/
  | implied
  /-- Passed on the way to the value of a dotted key. -/
  | dotted
deriving DecidableEq, Repr

inductive Node
  | value (value : Value)
  | table (origin : Origin) (entries : List (String × Node))
  | tables (elements : List (List (String × Node)))

abbrev Entries := List (String × Node)

namespace Entries

def replace (entries : Entries) (key : String) (node : Node) : Entries :=
  entries.map fun entry => if entry.1 = key then (key, node) else entry

/-- Changes the table at the end of a path. Tables that are missing on the way get the given
origin, an array of tables stands for its last one, and a dotted path does not pass through a
table with a header of its own. -/
def change (way : Origin) (edit : Origin → Entries → Option Entries) :
    List String → Origin → Entries → Option Entries
  | [], origin, entries => edit origin entries
  | key :: path, _, entries =>
    match entries.lookup key with
    | none => do
      let inner ← change way edit path way []
      return entries ++ [(key, .table way inner)]
    | some (.value _) => none
    | some (.table origin inner) =>
      if way = .dotted ∧ origin = .header then none
      else do
        let inner ← change way edit path origin inner
        return entries.replace key (.table origin inner)
    | some (.tables elements) => do
      let inner ← change way edit path .header (← elements.getLast?)
      return entries.replace key (.tables (elements.dropLast ++ [inner]))

def openTable (key : String) (entries : Entries) : Option Entries :=
  match entries.lookup key with
  | none => some (entries ++ [(key, .table .header [])])
  | some (.table .implied inner) => some (entries.replace key (.table .header inner))
  | _ => none

def openElement (key : String) (entries : Entries) : Option Entries :=
  match entries.lookup key with
  | none => some (entries ++ [(key, .tables [[]])])
  | some (.tables elements) => some (entries.replace key (.tables (elements ++ [[]])))
  | _ => none

/-- Adds a value to the table at the end of a dotted path. Dotted keys add to the tables of dotted
keys alone, and keys without points to the others. -/
def insert (path : List String) (key : String) (value : Value) (entries : Entries) :
    Option Entries :=
  entries.change .dotted
    (fun origin entries =>
      if (origin == .dotted) == path.isEmpty || (entries.lookup key).isSome then none
      else some (entries ++ [(key, .value value)]))
    path .header

end Entries

mutual

def Node.toValue : Node → Value
  | .value value => value
  | .table _ entries => .table (nodeValues entries)
  | .tables elements => .array (tableValues elements)
termination_by structural node => node

def nodeValues : List (String × Node) → List (String × Value)
  | [] => []
  | entry :: rest => entryValue entry :: nodeValues rest
termination_by structural entries => entries

def entryValue : String × Node → String × Value
  | (key, node) => (key, node.toValue)
termination_by structural entry => entry

def tableValues : List (List (String × Node)) → List Value
  | [] => []
  | element :: rest => .table (nodeValues element) :: tableValues rest
termination_by structural elements => elements

end

def tableOfPairs? (pairs : List (List String × Value)) : Option (List (String × Value)) := do
  let entries ← pairs.foldlM
    (fun entries (path, value) => do Entries.insert path.dropLast (← path.getLast?) value entries)
    ([] : Entries)
  return nodeValues entries

end Gamepad.Toml
