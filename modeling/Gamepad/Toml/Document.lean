import Gamepad.Toml.Text.Printer
import Gamepad.Toml.Value

/-!
Documents as they are written: entries first, then sections one deep, each after a blank line.
Keys are bare words. A list of two texts or more has a line for each.
-/

namespace Gamepad.Toml

inductive Field
  | text (text : String)
  | number (number : Int64)
  | texts (texts : List String)
deriving DecidableEq, Repr

structure Document where
  entries : List (String × Field)
  sections : List (String × List (String × Field))
deriving DecidableEq, Repr

namespace Field

def toValue : Field → Value
  | text body => .text body
  | number value => .integer value
  | texts items => .array (items.map .text)

def writeTexts : List String → List Char
  | [] => ['[', ']']
  | [item] => ['['] ++ writeText item ++ [']']
  | items =>
    "[\n".toList ++ items.flatMap (fun item => "    ".toList ++ writeText item ++ ",\n".toList) ++
      [']']

def write : Field → List Char
  | text body => writeText body
  | number value => (toString value.toInt).toList
  | texts items => writeTexts items

end Field

namespace Document

def writeEntries (entries : List (String × Field)) : List Char :=
  entries.flatMap fun (key, field) => key.toList ++ " = ".toList ++ field.write ++ ['\n']

def writeSections (sections : List (String × List (String × Field))) : List Char :=
  sections.flatMap fun (name, entries) =>
    "\n[".toList ++ name.toList ++ "]\n".toList ++ writeEntries entries

def render (document : Document) : String :=
  .ofList (writeEntries document.entries ++ writeSections document.sections)

def values (entries : List (String × Field)) : List (String × Value) :=
  entries.map fun (key, field) => (key, field.toValue)

def toTable (document : Document) : List (String × Value) :=
  values document.entries ++
    document.sections.map fun (name, entries) => (name, .table (values entries))

end Document

end Gamepad.Toml
