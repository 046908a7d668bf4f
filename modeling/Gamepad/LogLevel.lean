import Gamepad.Text.Case
import Gamepad.Text.Numeral

/-!
How much is logged. A level is asked for by its name or by its number.
-/

namespace Gamepad

inductive LogLevel
  | error
  | warn
  | info
  | debug
  | trace
deriving DecidableEq, Repr

namespace LogLevel

def all : List LogLevel := [error, warn, info, debug, trace]

def name : LogLevel → String
  | error => "ERROR"
  | warn => "WARN"
  | info => "INFO"
  | debug => "DEBUG"
  | trace => "TRACE"

def ofNumber? (number : Nat) : Option LogLevel :=
  if number = 0 then none else all[number - 1]?

def ofName? (text : String) : Option LogLevel :=
  all.find? fun level => Text.lower level.name = Text.lower text

def ofText? (text : String) : Option LogLevel :=
  (Text.readNumeral 10 text).bind ofNumber? <|> ofName? text

end LogLevel

end Gamepad
