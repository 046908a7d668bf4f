import Gamepad.Side
import Gamepad.Stick

/-!
The input report of a rumble pad, eight bytes on the wire:

* bytes 0 to 3 hold x and y of the left stick, then of the right stick;
* byte 4 holds the pad direction in its low half and the four buttons in its high half;
* byte 5 holds two bits each, left before right, for bumpers, triggers, options and stick presses;
* bytes 6 and 7 hold a mode and padding, which are kept and not interpreted.
-/

namespace Gamepad

abbrev RawReport := Vector UInt8 8

/-- One decoded report; every field holds only what its bits can say. -/
structure Report where
  sticks : PerSide StickSample
  dpad : Direction
  buttons : Vector Bool 4
  bumpers : PerSide Bool
  triggers : PerSide Bool
  options : PerSide Bool
  stickPresses : PerSide Bool
  mode : UInt8
  padding : UInt8
deriving DecidableEq, Repr

namespace Report

def idle : Report where
  sticks := .both .centered
  dpad := .centered
  buttons := .replicate 4 false
  bumpers := .both false
  triggers := .both false
  options := .both false
  stickPresses := .both false
  mode := 0
  padding := 0

/-- The direction in the low half of a byte; the numbers without a direction read as rest. -/
def dpadOfByte (byte : UInt8) : Direction :=
  (Direction.ofIndex? (byte.toNat % 16)).getD .centered

/-- Two neighbouring bits, the left side in the lower one. -/
def sidesOfByte (byte : UInt8) (bit : Nat) : PerSide Bool where
  left := byte.toNat.testBit bit
  right := byte.toNat.testBit (bit + 1)

def numberOfBits : List Bool → Nat
  | [] => 0
  | bit :: rest => bit.toNat + 2 * numberOfBits rest

def decode (raw : RawReport) : Report where
  sticks :=
    { left := { x := raw[0], y := raw[1] }
      right := { x := raw[2], y := raw[3] } }
  dpad := dpadOfByte raw[4]
  buttons := .ofFn fun index => raw[4].toNat.testBit (4 + index)
  bumpers := sidesOfByte raw[5] 0
  triggers := sidesOfByte raw[5] 2
  options := sidesOfByte raw[5] 4
  stickPresses := sidesOfByte raw[5] 6
  mode := raw[6]
  padding := raw[7]

def sideBits (report : Report) : List Bool :=
  report.bumpers.toList ++ report.triggers.toList ++ report.options.toList ++
    report.stickPresses.toList

def encode (report : Report) : RawReport :=
  #v[report.sticks.left.x, report.sticks.left.y, report.sticks.right.x, report.sticks.right.y,
    .ofNat (report.dpad.index + 16 * numberOfBits report.buttons.toList),
    .ofNat (numberOfBits report.sideBits), report.mode, report.padding]

def stick (report : Report) (side : Side) : StickSample := report.sticks.get side

/-- A button that the pad does not have reads as released. -/
def button (report : Report) (index : Nat) : Bool := report.buttons[index]?.getD false

def bumper (report : Report) (side : Side) : Bool := report.bumpers.get side

def trigger (report : Report) (side : Side) : Bool := report.triggers.get side

/-- The menu buttons: back on the left, start on the right. -/
def option (report : Report) (side : Side) : Bool := report.options.get side

def stickPress (report : Report) (side : Side) : Bool := report.stickPresses.get side

def withStick (report : Report) (side : Side) (sample : StickSample) : Report :=
  { report with sticks := report.sticks.set side sample }

def withDpad (report : Report) (direction : Direction) : Report :=
  { report with dpad := direction }

/-- Nothing happens to a button that the pad does not have. -/
def withButton (report : Report) (index : Nat) (pressed : Bool) : Report :=
  { report with buttons := report.buttons.setIfInBounds index pressed }

def withBumper (report : Report) (side : Side) (pressed : Bool) : Report :=
  { report with bumpers := report.bumpers.set side pressed }

def withTrigger (report : Report) (side : Side) (pressed : Bool) : Report :=
  { report with triggers := report.triggers.set side pressed }

def withOption (report : Report) (side : Side) (pressed : Bool) : Report :=
  { report with options := report.options.set side pressed }

def withStickPress (report : Report) (side : Side) (pressed : Bool) : Report :=
  { report with stickPresses := report.stickPresses.set side pressed }

end Report

end Gamepad
