import Gamepad.Key.Spec
import Gamepad.KeyMap
import Gamepad.Text.Words

/-!
Commands that bind a key to a control. A command is one line: a command word, the words that name
the control, and the kind and value of the key. All of it is checked before the key map changes,
so a refused command leaves the map as it was.
-/

namespace Gamepad

structure Binding where
  control : Control
  spec : KeySpec
deriving DecidableEq, Repr

namespace Binding

def parseSide (text : String) : Except BindingError Side :=
  match Side.ofName? text with
  | some side => .ok side
  | none => .error (.unknownSide text)

def parseDirection (text : String) : Except BindingError Direction :=
  match Direction.ofName? text with
  | some direction => .ok direction
  | none => .error (.unknownDirection text)

def parseButton (text : String) : Except BindingError Nat :=
  match Text.readUInt32 text with
  | some index => if index < 4 then .ok index.toNat else .error (.buttonOutOfRange index)
  | none => .error (.invalidButton text)

def take {α : Type} (label : String) (read : String → Except BindingError α) :
    List String → Except BindingError (α × List String)
  | [] => .error (.missingArgument label)
  | text :: rest => (read text).map fun value => (value, rest)

def takeControl (command : String) (rest : List String) :
    Except BindingError (Control × List String) := do
  match command with
  | "map-dpad" =>
    let (direction, rest) ← take "direction" parseDirection rest
    return (.dpad direction, rest)
  | "map-button" =>
    let (index, rest) ← take "button index" parseButton rest
    return (.button index, rest)
  | "map-bumper" =>
    let (side, rest) ← take "side" parseSide rest
    return (.bumper side, rest)
  | "map-trigger" =>
    let (side, rest) ← take "side" parseSide rest
    return (.trigger side, rest)
  | "map-stick" =>
    let (side, rest) ← take "side" parseSide rest
    let (direction, rest) ← take "direction" parseDirection rest
    return (.stick side direction, rest)
  | "map-stick-press" =>
    let (side, rest) ← take "side" parseSide rest
    return (.stickPress side, rest)
  | "map-option" =>
    let (side, rest) ← take "side" parseSide rest
    return (.option side, rest)
  | other => throw (.unknownCommand other)

/-- Reads the two words that ask for a key, which must be the last. -/
def parseSpec : List String → Except BindingError KeySpec
  | [] => .error (.missingArgument "key spec type")
  | [_] => .error (.missingArgument "key spec value")
  | [kind, value] => KeySpec.parse kind value
  | _ :: _ :: extra :: _ => .error (.unexpectedArgument extra)

def ofWords : List String → Except BindingError Binding
  | [] => .error (.missingArgument "command")
  | command :: rest => do
    let (control, rest) ← takeControl command rest
    return { control, spec := ← parseSpec rest }

def parse (line : String) : Except BindingError Binding := ofWords (Text.words line)

def apply (binding : Binding) (keyMap : KeyMap) : Except BindingError (KeyCode × KeyMap) := do
  let key ← binding.spec.resolve
  let (_, keyMap) ← keyMap.set binding.control key
  return (key, keyMap)

end Binding

namespace KeyMap

def bindDpad (keyMap : KeyMap) (direction : String) (spec : KeySpec) :
    Except BindingError (KeyCode × KeyMap) := do
  let direction ← Binding.parseDirection direction
  Binding.apply { control := .dpad direction, spec } keyMap

def bindButton (keyMap : KeyMap) (index : String) (spec : KeySpec) :
    Except BindingError (KeyCode × KeyMap) := do
  let index ← Binding.parseButton index
  Binding.apply { control := .button index, spec } keyMap

def bindBumper (keyMap : KeyMap) (side : String) (spec : KeySpec) :
    Except BindingError (KeyCode × KeyMap) := do
  let side ← Binding.parseSide side
  Binding.apply { control := .bumper side, spec } keyMap

def bindTrigger (keyMap : KeyMap) (side : String) (spec : KeySpec) :
    Except BindingError (KeyCode × KeyMap) := do
  let side ← Binding.parseSide side
  Binding.apply { control := .trigger side, spec } keyMap

def bindStick (keyMap : KeyMap) (side direction : String) (spec : KeySpec) :
    Except BindingError (KeyCode × KeyMap) := do
  let side ← Binding.parseSide side
  let direction ← Binding.parseDirection direction
  Binding.apply { control := .stick side direction, spec } keyMap

def bindStickPress (keyMap : KeyMap) (side : String) (spec : KeySpec) :
    Except BindingError (KeyCode × KeyMap) := do
  let side ← Binding.parseSide side
  Binding.apply { control := .stickPress side, spec } keyMap

def bindOption (keyMap : KeyMap) (side : String) (spec : KeySpec) :
    Except BindingError (KeyCode × KeyMap) := do
  let side ← Binding.parseSide side
  Binding.apply { control := .option side, spec } keyMap

end KeyMap

end Gamepad
