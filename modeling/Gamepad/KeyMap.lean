import Gamepad.Binding.Error
import Gamepad.Control
import Gamepad.Key.Code

/-!
The key bound to each control. There is one cell for every control that a pad has, and a cell
without a binding holds the unbound key.
-/

namespace Gamepad

structure KeyMap where
  dpad : Vector KeyCode 9
  buttons : Vector KeyCode 4
  bumpers : PerSide KeyCode
  triggers : PerSide KeyCode
  sticks : PerSide (Vector KeyCode 9)
  stickPresses : PerSide KeyCode
  options : PerSide KeyCode
deriving DecidableEq, Repr

namespace KeyMap

def empty : KeyMap where
  dpad := .replicate 9 .unbound
  buttons := .replicate 4 .unbound
  bumpers := .both .unbound
  triggers := .both .unbound
  sticks := .both (.replicate 9 .unbound)
  stickPresses := .both .unbound
  options := .both .unbound

instance : Inhabited KeyMap := ⟨empty⟩

def dpadKey (keyMap : KeyMap) (direction : Direction) : KeyCode :=
  keyMap.dpad.get direction.index

/-- A button that the pad does not have is unbound. -/
def buttonKey (keyMap : KeyMap) (index : Nat) : KeyCode := keyMap.buttons[index]?.getD .unbound

def bumperKey (keyMap : KeyMap) (side : Side) : KeyCode := keyMap.bumpers.get side

def triggerKey (keyMap : KeyMap) (side : Side) : KeyCode := keyMap.triggers.get side

def stickKey (keyMap : KeyMap) (side : Side) (direction : Direction) : KeyCode :=
  (keyMap.sticks.get side).get direction.index

def stickPressKey (keyMap : KeyMap) (side : Side) : KeyCode := keyMap.stickPresses.get side

def optionKey (keyMap : KeyMap) (side : Side) : KeyCode := keyMap.options.get side

def key (keyMap : KeyMap) : Control → KeyCode
  | .dpad direction => keyMap.dpadKey direction
  | .button index => keyMap.buttonKey index
  | .bumper side => keyMap.bumperKey side
  | .trigger side => keyMap.triggerKey side
  | .stick side direction => keyMap.stickKey side direction
  | .stickPress side => keyMap.stickPressKey side
  | .option side => keyMap.optionKey side

/-- The cell of a control. Only a button can lack one; its index is then reported modulo the word
size. -/
def read (keyMap : KeyMap) : Control → Except BindingError KeyCode
  | .dpad direction => .ok (keyMap.dpad.get direction.index)
  | .button index =>
    match keyMap.buttons[index]? with
    | some key => .ok key
    | none => .error (.buttonOutOfRange (.ofNat index))
  | .bumper side => .ok (keyMap.bumpers.get side)
  | .trigger side => .ok (keyMap.triggers.get side)
  | .stick side direction => .ok ((keyMap.sticks.get side).get direction.index)
  | .stickPress side => .ok (keyMap.stickPresses.get side)
  | .option side => .ok (keyMap.options.get side)

def get? (keyMap : KeyMap) (control : Control) : Option KeyCode :=
  (keyMap.read control).toOption

def write (keyMap : KeyMap) (control : Control) (key : KeyCode) : KeyMap :=
  match control with
  | .dpad direction => { keyMap with dpad := keyMap.dpad.set direction.index key }
  | .button index => { keyMap with buttons := keyMap.buttons.setIfInBounds index key }
  | .bumper side => { keyMap with bumpers := keyMap.bumpers.set side key }
  | .trigger side => { keyMap with triggers := keyMap.triggers.set side key }
  | .stick side direction =>
    let cells := (keyMap.sticks.get side).set direction.index key
    { keyMap with sticks := keyMap.sticks.set side cells }
  | .stickPress side => { keyMap with stickPresses := keyMap.stickPresses.set side key }
  | .option side => { keyMap with options := keyMap.options.set side key }

def set (keyMap : KeyMap) (control : Control) (key : KeyCode) :
    Except BindingError (KeyCode × KeyMap) :=
  (keyMap.read control).map fun previous => (previous, keyMap.write control key)

end KeyMap

end Gamepad
