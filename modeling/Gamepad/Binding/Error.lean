import Gamepad.Text.Quoted

/-!
Why a binding is refused. Offending words are shown in quotes.
-/

namespace Gamepad

inductive BindingError
  | unknownDirection (text : String)
  | unknownSide (text : String)
  | buttonOutOfRange (index : UInt32)
  | invalidButton (text : String)
  | invalidKeyCode (text : String)
  | invalidChar (text : String)
  | unknownKeyName (text : String)
  | unknownKeyKind (text : String)
  | missingArgument (label : String)
  | unexpectedArgument (text : String)
  | unknownCommand (text : String)
deriving DecidableEq, Repr

open Text in
def BindingError.message : BindingError → String
  | .unknownDirection text => s!"unknown direction: {quotedText text}"
  | .unknownSide text => s!"unknown side: {quotedText text} (expected \"left\" or \"right\")"
  | .buttonOutOfRange index => s!"button index {index.toNat} out of range (expected 0-3)"
  | .invalidButton text => s!"invalid button index: {quotedText text}"
  | .invalidKeyCode text => s!"invalid key code: {quotedText text}"
  | .invalidChar text => s!"expected exactly one character, got {quotedText text}"
  | .unknownKeyName text => s!"unknown key name: {quotedText text}"
  | .unknownKeyKind text =>
    s!"unknown key spec type: {quotedText text} (expected code, char or name)"
  | .missingArgument label => s!"missing argument: {label}"
  | .unexpectedArgument text => s!"unexpected argument: {quotedText text}"
  | .unknownCommand text => s!"unknown command: {quotedText text}"

end Gamepad
