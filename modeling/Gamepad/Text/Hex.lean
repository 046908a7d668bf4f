import Gamepad.Text.Numeral
import Gamepad.Text.Quoted

/-!
Bytes written as pairs of hexadecimal digits. A fault is located by the byte at which it stands in
the text's UTF-8 form, and the offending byte is shown as the character with its number.
-/

namespace Gamepad.Text

inductive HexError
  | oddLength
  | invalidDigit (byte : UInt8) (position : Nat)
deriving DecidableEq, Repr

def HexError.message : HexError → String
  | .oddLength => "Odd number of digits"
  | .invalidDigit byte position =>
    s!"Invalid character {quotedChar (Char.ofNat byte.toNat)} at position {position}"

def hexDigitOfByte (position : Nat) (byte : UInt8) : Except HexError Nat :=
  match digitValue? 16 (Char.ofNat byte.toNat) with
  | some value => .ok value
  | none => .error (.invalidDigit byte position)

def decodeHexPairs (position : Nat) : List UInt8 → Except HexError (List UInt8)
  | [] => .ok []
  | [_] => .error .oddLength
  | high :: low :: rest => do
    let upper ← hexDigitOfByte position high
    let lower ← hexDigitOfByte (position + 1) low
    let bytes ← decodeHexPairs (position + 2) rest
    return UInt8.ofNat (16 * upper + lower) :: bytes

/-- An odd length is reported before any bad digit. -/
def decodeHex (text : String) : Except HexError (List UInt8) :=
  let bytes := text.toUTF8.data.toList
  if bytes.length % 2 = 1 then .error .oddLength
  else decodeHexPairs 0 bytes

def encodeHex (bytes : List UInt8) : String :=
  String.ofList (bytes.flatMap fun byte => hexDigits 2 byte.toNat)

end Gamepad.Text
