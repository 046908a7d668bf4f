/-!
Unsigned numerals in a base of at most sixteen: one plus sign may lead, then comes at least one
digit, and leading zeros are allowed. Printing uses small letters for the digits above nine.
-/

namespace Gamepad.Text

def digitValue? (base : Nat) (c : Char) : Option Nat :=
  let value? :=
    if '0' ≤ c && c ≤ '9' then some (c.toNat - '0'.toNat)
    else if 'a' ≤ c && c ≤ 'f' then some (c.toNat - 'a'.toNat + 10)
    else if 'A' ≤ c && c ≤ 'F' then some (c.toNat - 'A'.toNat + 10)
    else none
  value?.filter (· < base)

/-- Reads digits after those already summed up in `high`. -/
def readDigits (base : Nat) : (high : Nat) → List Char → Option Nat
  | high, [] => some high
  | high, c :: rest => do
    let digit ← digitValue? base c
    readDigits base (base * high + digit) rest

def readNumeral (base : Nat) (text : String) : Option Nat :=
  match text.toList with
  | [] | ['+'] => none
  | '+' :: digits => readDigits base 0 digits
  | digits => readDigits base 0 digits

def readUInt32 (text : String) : Option UInt32 :=
  ((readNumeral 10 text).filter (· < UInt32.size)).map UInt32.ofNat

def readHexUInt16 (text : String) : Option UInt16 :=
  ((readNumeral 16 text).filter (· < UInt16.size)).map UInt16.ofNat

def hexDigits (width value : Nat) : List Char :=
  let digits := Nat.toDigits 16 value
  List.replicate (width - digits.length) '0' ++ digits

end Gamepad.Text
