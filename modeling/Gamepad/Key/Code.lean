import Gamepad.Text.Quoted

/-!
Key codes. A plain character is its code point; the keys without a character carry a scan code
under a flag bit above all code points. Code zero means that no key is bound.
-/

namespace Gamepad

structure KeyCode where
  value : UInt32
deriving DecidableEq, Repr

namespace KeyCode

def unbound : KeyCode := ⟨0⟩

instance : Inhabited KeyCode := ⟨unbound⟩

def extendedFlag : UInt32 := 0x800000

def extended (scan : UInt32) : KeyCode := ⟨extendedFlag ||| scan⟩

def ofChar (c : Char) : KeyCode := ⟨c.val⟩

def isControl (c : Char) : Bool := c.toNat < 0x20 || (0x7f ≤ c.toNat && c.toNat < 0xa0)

def toChar? (key : KeyCode) : Option Char :=
  if key.value &&& extendedFlag ≠ 0 then none
  else if valid : key.value.isValidChar then
    let c : Char := ⟨key.value, valid⟩
    if isControl c then none else some c
  else none

/-- The code in hexadecimal, and the character in quotes where there is one. -/
def text (key : KeyCode) : String :=
  let number := "0x" ++ String.ofList (Text.hexDigits 2 key.value.toNat)
  match key.toChar? with
  | some c => number ++ " " ++ Text.quotedChar c
  | none => number

end KeyCode

end Gamepad
