import Gamepad.Text.Numeral
import Gamepad.Text.Printable

/-!
Text shown between quotes. The quote, the backslash and the common controls have short escapes;
every other character that does not stand alone is written as its code point.
-/

namespace Gamepad.Text

def escape (quote c : Char) : List Char :=
  if c = quote ∨ c = '\\' then ['\\', c]
  else if c = '\x00' then ['\\', '0']
  else if c = '\t' then ['\\', 't']
  else if c = '\n' then ['\\', 'n']
  else if c = '\r' then ['\\', 'r']
  else if standsAlone c then [c]
  else ['\\', 'u', '\x7b'] ++ hexDigits 1 c.toNat ++ ['\x7d']

def quotedText (text : String) : String :=
  String.ofList (['"'] ++ text.toList.flatMap (escape '"') ++ ['"'])

def quotedChar (c : Char) : String :=
  String.ofList (['\''] ++ escape '\'' c ++ ['\''])

end Gamepad.Text
