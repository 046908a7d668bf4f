import Gamepad.Binding
import Gamepad.Files
import Gamepad.LogLevel
import Gamepad.Registry

/-!
The configuration of a host. Everything in it has a default, and what can be checked without
running is checked when a configuration is accepted. That a key of a binding has a known name is
found out only when the key map is built.
-/

namespace Gamepad

structure Configuration where
  /-- Binding commands, in the order in which they apply. -/
  bindings : List String := []
  quantizer : Quantizer := {}
  policy : OverflowPolicy := .dropOldest
  capacity : Nat := 16
  /-- What the names of input sources start with. -/
  sourceName : String := "usb_gamepad"
  level : String := "info"
deriving DecidableEq, Repr

inductive ConfigurationError
  | read (path : Path) (error : FileError)
  | parse (path : Path)
  | negativeDeadZone (value : Int32)
  | negativeBand (value : Int32)
  | unknownLevel (text : String)
  | invalidBinding (line : String) (error : BindingError)
  | bindingRefused (error : BindingError)
  | createDirectory (error : FileError)
  | serialize
  | write (error : FileError)
deriving DecidableEq, Repr

namespace ConfigurationError

def pathText (path : Path) : String := "/".intercalate path

/-- The text of an error. A TOML library adds what it has to say of a text or a document that it
refused; the library of this project says nothing. -/
def message (error : ConfigurationError) (said : String := "") : String :=
  match error with
  | read path error => s!"Failed to read config file {pathText path}: {error.message}"
  | parse path => s!"Failed to parse config file {pathText path}: {said}"
  | negativeDeadZone value =>
    s!"quantizer.dead_zone_squared must not be negative, got {value.toInt}"
  | negativeBand value => s!"quantizer.axis_band must not be negative, got {value.toInt}"
  | unknownLevel text => s!"Unknown log level: {text}"
  | invalidBinding line error => s!"Invalid binding '{line}': {error.message}"
  | bindingRefused error => s!"Failed to apply binding: {error.message}"
  | createDirectory error => s!"Failed to create config directory: {error.message}"
  | serialize => s!"Failed to serialize config: {said}"
  | write error => s!"Failed to write config file: {error.message}"

end ConfigurationError

def LogLevel.parse (text : String) : Except ConfigurationError LogLevel :=
  match LogLevel.ofText? text with
  | some level => .ok level
  | none => .error (.unknownLevel text)

namespace Configuration

def parseBinding (line : String) : Except ConfigurationError Binding :=
  (Binding.parse line).mapError (.invalidBinding line)

def commands (configuration : Configuration) : Except ConfigurationError (List Binding) :=
  configuration.bindings.mapM parseBinding

def maxLevel (configuration : Configuration) : Except ConfigurationError LogLevel :=
  LogLevel.parse configuration.level

/-- Refuses a configuration with a value that could only fail later. -/
def validate (configuration : Configuration) : Except ConfigurationError Unit := do
  if configuration.quantizer.deadZoneSquared < 0 then
    throw (.negativeDeadZone configuration.quantizer.deadZoneSquared)
  if configuration.quantizer.axisBand < 0 then
    throw (.negativeBand configuration.quantizer.axisBand)
  let _ ← configuration.maxLevel
  let _ ← configuration.commands
  return ()

def applyCommand (keyMap : KeyMap) (binding : Binding) : Except ConfigurationError KeyMap :=
  ((binding.apply keyMap).map Prod.snd).mapError .bindingRefused

def keyMap (configuration : Configuration) : Except ConfigurationError KeyMap := do
  (← configuration.commands).foldlM applyCommand .empty

def registrySettings (configuration : Configuration) : RegistrySettings where
  capacity := Registry.clampCapacity configuration.capacity
  sourceName := configuration.sourceName
  policy := configuration.policy
  quantizer := configuration.quantizer

end Configuration

end Gamepad
