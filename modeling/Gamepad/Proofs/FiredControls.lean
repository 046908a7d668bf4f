import Gamepad.Transition

/-!
What can be seen of a report, and which controls fire when one report follows another. Main
statements: the keys of a transition are those bound to the controls that fire, so the key map
decides neither which controls fire nor how many; and nothing fires between two reports that look
the same.
-/

namespace Gamepad

/-- A report as far as keys can depend on it: a stick is known by its direction, and mode and
padding are not seen. -/
structure Observation where
  dpad : Direction
  buttons : Vector Bool 4
  bumpers : PerSide Bool
  triggers : PerSide Bool
  sticks : PerSide Direction
  stickPresses : PerSide Bool
  options : PerSide Bool
deriving DecidableEq, Repr

def Report.observe (quantizer : Quantizer) (report : Report) : Observation where
  dpad := report.dpad
  buttons := report.buttons
  bumpers := report.bumpers
  triggers := report.triggers
  sticks :=
    { left := quantizer.quantize report.sticks.left
      right := quantizer.quantize report.sticks.right }
  stickPresses := report.stickPresses
  options := report.options

theorem Report.stick_observe (quantizer : Quantizer) (report : Report) (side : Side) :
    (report.observe quantizer).sticks.get side = quantizer.quantize (report.stick side) := by
  cases side <;> rfl

namespace Observation

open Transition (isPress)

def controlIf (fires : Bool) (control : Control) : List Control := if fires then [control] else []

def firedButtons (before after : Observation) : List Control :=
  (List.range 4).flatMap fun index =>
    controlIf (isPress (before.buttons[index]?.getD false) (after.buttons[index]?.getD false))
      (.button index)

def firedOfSide (before after : Observation) (side : Side) : List Control :=
  controlIf (isPress (before.bumpers.get side) (after.bumpers.get side)) (.bumper side) ++
  controlIf (isPress (before.triggers.get side) (after.triggers.get side)) (.trigger side) ++
  controlIf (before.sticks.get side ≠ after.sticks.get side) (.stick side (after.sticks.get side)) ++
  controlIf (isPress (before.stickPresses.get side) (after.stickPresses.get side))
    (.stickPress side) ++
  controlIf (isPress (before.options.get side) (after.options.get side)) (.option side)

/-- The controls that fire when one observation follows another, in the order of their keys. -/
def fired (before after : Observation) : List Control :=
  controlIf (before.dpad ≠ after.dpad) (.dpad after.dpad) ++ firedButtons before after ++
    Side.all.flatMap (firedOfSide before after)

theorem isPress_self (pressed : Bool) : isPress pressed pressed = false := Bool.not_and_self pressed

theorem fired_self (observation : Observation) : observation.fired observation = [] := by
  simp [fired, firedButtons, firedOfSide, controlIf, isPress_self]

end Observation

namespace Transition

variable (quantizer : Quantizer) (keyMap : KeyMap) (previous current : Report)

theorem map_controlIf (fires : Bool) (control : Control) :
    (Observation.controlIf fires control).map keyMap.key = keyIf fires (keyMap.key control) := by
  cases fires <;> rfl

theorem dpadKeys_eq_map_fired :
    dpadKeys keyMap previous current =
      (Observation.controlIf (previous.dpad ≠ current.dpad) (.dpad current.dpad)).map keyMap.key := by
  rw [map_controlIf]
  rfl

theorem buttonKeys_eq_map_fired :
    buttonKeys keyMap previous current =
      ((previous.observe quantizer).firedButtons (current.observe quantizer)).map keyMap.key := by
  rw [Observation.firedButtons, List.map_flatMap]
  simp only [map_controlIf]
  rfl

theorem sideKeys_eq_map_fired (side : Side) :
    sideKeys quantizer keyMap previous current side =
      ((previous.observe quantizer).firedOfSide (current.observe quantizer) side).map keyMap.key := by
  simp only [Observation.firedOfSide, List.map_append, map_controlIf, Report.stick_observe]
  rfl

/-- The keys of a transition are those bound to the controls that fire. -/
theorem keys_eq_map_fired :
    keys quantizer keyMap previous current =
      ((previous.observe quantizer).fired (current.observe quantizer)).map keyMap.key := by
  have sides : sideKeys quantizer keyMap previous current =
      fun side => ((previous.observe quantizer).firedOfSide (current.observe quantizer) side).map
        keyMap.key := funext (sideKeys_eq_map_fired quantizer keyMap previous current)
  rw [keys, dpadKeys_eq_map_fired, buttonKeys_eq_map_fired quantizer, sides, ← List.map_flatMap,
    ← List.map_append, ← List.map_append]
  rfl

end Transition

end Gamepad
