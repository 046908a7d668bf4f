import Gamepad.Toml.Document
import Gamepad.Toml.Statement

/-!
What a program asks of a library for TOML: to write a document, and to read a text. Numbers are
handed over in any size, and a document holds those of 64 bits.
-/

namespace Gamepad.Toml

inductive DraftField
  | text (text : String)
  | number (number : Int)
  | texts (texts : List String)
deriving DecidableEq, Repr

structure Draft where
  entries : List (String × DraftField)
  sections : List (String × List (String × DraftField))
deriving DecidableEq, Repr

def DraftField.field? : DraftField → Option Field
  | text body => some (.text body)
  | number value =>
    if Int64.minValue.toInt ≤ value ∧ value ≤ Int64.maxValue.toInt then
      some (.number (.ofInt value))
    else none
  | texts items => some (.texts items)

namespace Draft

def fields? (entries : List (String × DraftField)) : Option (List (String × Field)) :=
  entries.mapM fun (key, field) => field.field?.map fun field => (key, field)

def document? (draft : Draft) : Option Document := do
  let entries ← fields? draft.entries
  let sections ← draft.sections.mapM fun (name, entries) =>
    (fields? entries).map fun entries => (name, entries)
  return { entries, sections }

end Draft

structure Library where
  write : Draft → Option String
  /-- The root table of a text. -/
  read : String → Option (List (String × Value))

def library : Library where
  write draft := draft.document?.map Document.render
  read := Toml.read

end Gamepad.Toml
