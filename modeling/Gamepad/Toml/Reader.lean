import Gamepad.Toml.Key
import Gamepad.Toml.Moment
import Gamepad.Toml.Number
import Gamepad.Toml.Tree

/-!
Reading the values of a TOML document. An array may spread over lines, hold comments and end with
a comma; a table in braces stands on one line and ends without one.
-/

namespace Gamepad.Toml

variable {α : Type}

def taken (text rest : List Char) : String := .ofList (text.take (text.length - rest.length))

def readMoment (text : List Char) : Option (Value × List Char) :=
  (moment? text).map fun rest => (.moment (taken text rest), rest)

def readFloat (text : List Char) : Option (Value × List Char) :=
  (float? text).map fun rest => (.float (taken text rest), rest)

def readInteger (text : List Char) : Option (Value × List Char) :=
  (integer? text).map fun (number, rest) => (.integer number, rest)

def readTextValue (text : List Char) : Option (Value × List Char) :=
  (readText text).map fun (body, rest) => (.text (.ofList body), rest)

def readBoolean : List Char → Option (Value × List Char)
  | 't' :: 'r' :: 'u' :: 'e' :: rest => some (.boolean true, rest)
  | 'f' :: 'a' :: 'l' :: 's' :: 'e' :: rest => some (.boolean false, rest)
  | _ => none

/-- Values without values inside; a moment or a float may start as an integer does. -/
def readScalar (text : List Char) : Option (Value × List Char) :=
  readTextValue text <|> readBoolean text <|> readMoment text <|> readFloat text <|>
    readInteger text

def readItems (item : List Char → Option (α × List Char)) :
    (fuel : Nat) → List Char → Option (List α × List Char)
  | 0, _ => none
  | fuel + 1, text =>
    match skipFiller false text with
    | ']' :: rest => some ([], rest)
    | text => do
      let (first, rest) ← item text
      match skipFiller false rest with
      | ']' :: rest => return ([first], rest)
      | ',' :: rest => do
        let (items, rest) ← readItems item fuel rest
        return (first :: items, rest)
      | _ => none

def readPair (value : List Char → Option (α × List Char)) (text : List Char) :
    Option ((List String × α) × List Char) := do
  let (path, rest) ← readPath text
  let '=' :: rest := rest | none
  let (value, rest) ← value (skipSpaces rest)
  return ((path, value), rest)

def readPairs (value : List Char → Option (α × List Char)) :
    (fuel : Nat) → List Char → Option (List (List String × α) × List Char)
  | 0, _ => none
  | fuel + 1, text => do
    let (first, rest) ← readPair value text
    match skipSpaces rest with
    | '\x7d' :: rest => return ([first], rest)
    | ',' :: rest => do
      let (pairs, rest) ← readPairs value fuel rest
      return (first :: pairs, rest)
    | _ => none

def readValue : (depth : Nat) → List Char → Option (Value × List Char)
  | depth + 1, '[' :: text => do
    let (items, rest) ← readItems (readValue depth) (text.length + 1) text
    return (.array items, rest)
  | depth + 1, '\x7b' :: text =>
    match skipSpaces text with
    | '\x7d' :: rest => some (.table [], rest)
    | text => do
      let (pairs, rest) ← readPairs (readValue depth) (text.length + 1) text
      return (.table (← tableOfPairs? pairs), rest)
  | _, text => readScalar text

end Gamepad.Toml
