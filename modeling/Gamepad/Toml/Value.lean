/-!
The values of a TOML document. Floats and moments keep the text that wrote them, because nothing
here computes with them.
-/

namespace Gamepad.Toml

inductive Value
  | text (text : String)
  | integer (number : Int64)
  | float (text : String)
  | boolean (truth : Bool)
  | moment (text : String)
  | array (items : List Value)
  | table (entries : List (String × Value))
deriving Repr

def field? (entries : List (String × Value)) (key : String) : Option Value := entries.lookup key

end Gamepad.Toml
