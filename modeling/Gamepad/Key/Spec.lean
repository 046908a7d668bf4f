import Gamepad.Binding.Error
import Gamepad.Key.Named

/-!
How a key is asked for: by its code, as a character, or by its name. Whether a name is known is
found out only when the key is looked up.
-/

namespace Gamepad

inductive KeySpec
  | code (value : UInt32)
  | char (c : Char)
  | name (text : String)
deriving DecidableEq, Repr

namespace KeySpec

def parse (kind value : String) : Except BindingError KeySpec :=
  match kind with
  | "code" =>
    match Text.readUInt32 value with
    | some number => .ok (code number)
    | none => .error (.invalidKeyCode value)
  | "char" =>
    match value.toList with
    | [c] => .ok (char c)
    | _ => .error (.invalidChar value)
  | "name" => .ok (name value)
  | other => .error (.unknownKeyKind other)

def words : KeySpec → String × String
  | code value => ("code", toString value.toNat)
  | char c => ("char", String.singleton c)
  | name text => ("name", text)

def text (spec : KeySpec) : String := s!"{spec.words.1} {spec.words.2}"

def resolve : KeySpec → Except BindingError KeyCode
  | code value => .ok ⟨value⟩
  | char c => .ok (.ofChar c)
  | name text =>
    match KeyCode.ofName? text with
    | some key => .ok key
    | none => .error (.unknownKeyName text)

end KeySpec

end Gamepad
