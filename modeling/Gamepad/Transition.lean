import Gamepad.KeyMap
import Gamepad.Report

/-!
The keys that one report emits after another: first a new pad direction, then the buttons newly
pressed, then, left before right, the controls of each side. Letting a control go emits nothing,
but the pad and a stick that come back to rest have changed their direction.
-/

namespace Gamepad.Transition

def isPress (before after : Bool) : Bool := !before && after

def keyIf (fires : Bool) (key : KeyCode) : List KeyCode := if fires then [key] else []

def dpadKeys (keyMap : KeyMap) (previous current : Report) : List KeyCode :=
  keyIf (previous.dpad ≠ current.dpad) (keyMap.dpadKey current.dpad)

def buttonKeys (keyMap : KeyMap) (previous current : Report) : List KeyCode :=
  (List.range 4).flatMap fun index =>
    keyIf (isPress (previous.button index) (current.button index)) (keyMap.buttonKey index)

def stickKeys (quantizer : Quantizer) (keyMap : KeyMap) (previous current : Report) (side : Side) :
    List KeyCode :=
  let before := quantizer.quantize (previous.stick side)
  let after := quantizer.quantize (current.stick side)
  keyIf (before ≠ after) (keyMap.stickKey side after)

/-- Bumper, trigger, stick, stick press and option of one side, in this order. -/
def sideKeys (quantizer : Quantizer) (keyMap : KeyMap) (previous current : Report) (side : Side) :
    List KeyCode :=
  keyIf (isPress (previous.bumper side) (current.bumper side)) (keyMap.bumperKey side) ++
  keyIf (isPress (previous.trigger side) (current.trigger side)) (keyMap.triggerKey side) ++
  stickKeys quantizer keyMap previous current side ++
  keyIf (isPress (previous.stickPress side) (current.stickPress side))
    (keyMap.stickPressKey side) ++
  keyIf (isPress (previous.option side) (current.option side)) (keyMap.optionKey side)

def keys (quantizer : Quantizer) (keyMap : KeyMap) (previous current : Report) : List KeyCode :=
  dpadKeys keyMap previous current ++ buttonKeys keyMap previous current ++
    Side.all.flatMap (sideKeys quantizer keyMap previous current)

end Gamepad.Transition
