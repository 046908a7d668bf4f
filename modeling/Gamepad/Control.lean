import Gamepad.Direction
import Gamepad.Side

/-!
The controls of a pad to which a key can be bound.
-/

namespace Gamepad

/-- A button is named by its index, whether the pad has that button or not. -/
inductive Control
  | dpad (direction : Direction)
  | button (index : Nat)
  | bumper (side : Side)
  | trigger (side : Side)
  | stick (side : Side) (direction : Direction)
  | stickPress (side : Side)
  | option (side : Side)
deriving DecidableEq, Repr

namespace Control

def text : Control → String
  | dpad direction => s!"dpad {direction.name}"
  | button index => s!"button {index}"
  | bumper side => s!"{side.name} bumper"
  | trigger side => s!"{side.name} trigger"
  | stick side direction => s!"{side.name} stick {direction.name}"
  | stickPress side => s!"{side.name} stick press"
  | option side => s!"{side.name} option"

end Control

end Gamepad
