import Gamepad.Toml.Reader

/-!
A TOML document as a sequence of statements, one a line, and the table that the statements build
up.
-/

namespace Gamepad.Toml

inductive Statement
  /-- The header of a table. -/
  | table (path : List String)
  /-- The header of one more table of an array. -/
  | element (path : List String)
  | pair (path : List String) (value : Value)

namespace Statement

def readHeader (text : List Char) : Option (Statement × List Char) :=
  match text with
  | '[' :: rest => do
    let (path, rest) ← readPath rest
    let ']' :: ']' :: rest := rest | none
    return (element path, rest)
  | text => do
    let (path, rest) ← readPath text
    let ']' :: rest := rest | none
    return (table path, rest)

def read : List Char → Option (Statement × List Char)
  | '[' :: text => readHeader text
  | text => do
    let ((path, value), rest) ← readPair (readValue depthLimit) text
    return (pair path value, rest)

def readLines : (fuel : Nat) → List Char → Option (List Statement)
  | 0, _ => none
  | fuel + 1, text =>
    match skipSpaces text with
    | [] => some []
    | c :: text =>
      if c = '#' || c = '\n' || c = '\r' then do readLines fuel (← endLine? (c :: text))
      else do
        let (statement, rest) ← read (c :: text)
        let statements ← readLines fuel (← endLine? rest)
        return statement :: statements

/-- The statements of a document, which a byte order mark may precede. -/
def readAll (text : List Char) : Option (List Statement) :=
  match text with
  | '\ufeff' :: rest => readLines (rest.length + 1) rest
  | text => readLines (text.length + 1) text

structure Building where
  root : Entries := []
  current : List String := []

def changeParent (building : Building) (path : List String)
    (edit : String → Entries → Option Entries) : Option Building := do
  let key ← path.getLast?
  let root ← building.root.change .implied (fun _ => edit key) path.dropLast .header
  return { root, current := path }

def apply (building : Building) : Statement → Option Building
  | table path => changeParent building path Entries.openTable
  | element path => changeParent building path Entries.openElement
  | pair path value => do
    let key ← path.getLast?
    let root ← building.root.change .implied (fun _ => Entries.insert path.dropLast key value)
      building.current .header
    return { building with root }

end Statement

def read (text : String) : Option (List (String × Value)) := do
  let statements ← Statement.readAll text.toList
  let building ← statements.foldlM Statement.apply {}
  return nodeValues building.root

end Gamepad.Toml
