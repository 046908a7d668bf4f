import Gamepad.Registry
import Gamepad.Text.Hex

/-!
Why the console refuses a line.
-/

namespace Gamepad

inductive ReportFault
  | digits (error : Text.HexError)
  | length (count : Nat)
deriving DecidableEq, Repr

def ReportFault.message : ReportFault → String
  | digits error => error.message
  | length count => s!"expected 8 bytes, got {count}"

inductive ConsoleError
  | unknownCommand (text : String)
  | missingArgument (label : String)
  | invalidArgument (label text : String)
  | emptySlot (slot : Nat)
  | invalidReport (fault : ReportFault)
  | binding (error : BindingError)
  | attach (error : AttachError)
  | registry (error : RegistryError)
deriving DecidableEq, Repr

def ConsoleError.message : ConsoleError → String
  | unknownCommand text => s!"unknown command: {text}"
  | missingArgument label => s!"missing argument: {label}"
  | invalidArgument label text => s!"invalid argument '{text}' for {label}"
  | emptySlot slot => s!"slot {slot} is empty"
  | invalidReport fault => s!"invalid report: {fault.message}"
  | binding error => error.message
  | attach error => error.message
  | registry error => error.message

end Gamepad
