import Gamepad.Direction

/-!
Analog sticks. A sample is at rest inside a circular dead zone; outside it each axis is compared
with a linear band by itself, and the two signs give the direction.
-/

namespace Gamepad

/-- Where a stick stands, both axes counted from zero with 127 in the middle. -/
structure StickSample where
  x : UInt8
  y : UInt8
deriving DecidableEq, Repr

def StickSample.centered : StickSample where
  x := 127
  y := 127

structure Quantizer where
  /-- The largest squared distance from the middle at which a stick counts as at rest. -/
  deadZoneSquared : Int32 := 3276
  /-- The largest offset at which an axis counts as zero. -/
  axisBand : Int32 := 40
deriving DecidableEq, Repr

namespace Quantizer

def offset (coordinate : UInt8) : Int32 := Int32.ofNat coordinate.toNat - 127

def distanceSquared (sample : StickSample) : Int32 :=
  offset sample.x * offset sample.x + offset sample.y * offset sample.y

def axisSign (quantizer : Quantizer) (value : Int32) : Ordering :=
  if quantizer.axisBand < value then .gt
  else if value < -quantizer.axisBand then .lt
  else .eq

def quantize (quantizer : Quantizer) (sample : StickSample) : Direction :=
  if distanceSquared sample ≤ quantizer.deadZoneSquared then .centered
  else
    .ofSigns (quantizer.axisSign (offset sample.x)) (quantizer.axisSign (offset sample.y))

end Quantizer

end Gamepad
