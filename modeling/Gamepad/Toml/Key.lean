import Gamepad.Toml.Text.Reader

/-!
Keys of a TOML document. A key is a bare word or a text in quotes on one line, and points between
keys make a path through nested tables.
-/

namespace Gamepad.Toml

/-- How deep tables and arrays may nest, and how many keys a path may have. -/
def depthLimit : Nat := 79

def isBareChar (c : Char) : Bool := c.isAlphanum || c = '-' || c = '_'

def readKey : List Char → Option (String × List Char)
  | '"' :: rest => (readBasic rest).map fun (body, rest) => (.ofList body, rest)
  | '\'' :: rest => (readLiteral rest).map fun (body, rest) => (.ofList body, rest)
  | text =>
    match text.takeWhile isBareChar with
    | [] => none
    | word => some (.ofList word, text.dropWhile isBareChar)

def readKeys : (limit : Nat) → List Char → Option (List String × List Char)
  | 0, _ => none
  | limit + 1, text => do
    let (key, rest) ← readKey (skipSpaces text)
    match skipSpaces rest with
    | '.' :: rest => do
      let (keys, rest) ← readKeys limit rest
      return (key :: keys, rest)
    | rest => return ([key], rest)

def readPath (text : List Char) : Option (List String × List Char) := readKeys depthLimit text

end Gamepad.Toml
