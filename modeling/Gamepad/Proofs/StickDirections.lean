import Gamepad.Configuration
import Mathlib.Algebra.Order.Ring.Abs

/-!
The direction of a stick, for every sample and for all thresholds that a configuration can have.
Main statement: no step on the way to the direction overflows; a stick counts as at rest exactly in
the dead zone and in the square where both axes count as zero; a sample that is turned over has the
direction turned over; and a sample further out keeps each part of the direction.
-/

namespace Gamepad

namespace Direction

/-- Left comes before the middle and right behind it. -/
def horizontal : Direction → Ordering
  | left | upLeft | downLeft => .lt
  | up | down | centered => .eq
  | right | upRight | downRight => .gt

/-- Up comes before the middle and down behind it. -/
def vertical : Direction → Ordering
  | up | upLeft | upRight => .lt
  | left | right | centered => .eq
  | down | downLeft | downRight => .gt

def mirrored : Direction → Direction
  | up => up
  | upRight => upLeft
  | right => left
  | downRight => downLeft
  | down => down
  | downLeft => downRight
  | left => right
  | upLeft => upRight
  | centered => centered

def upended : Direction → Direction
  | up => down
  | upRight => downRight
  | right => right
  | downRight => upRight
  | down => up
  | downLeft => upLeft
  | left => left
  | upLeft => downLeft
  | centered => centered

/-- Left changes places with up, and right with down. -/
def transposed : Direction → Direction
  | up => left
  | upRight => downLeft
  | right => down
  | downRight => downRight
  | down => right
  | downLeft => upRight
  | left => up
  | upLeft => upLeft
  | centered => centered

/-- Every part of a direction, left or right and up or down, is also one of the other. -/
structure Keeps (other direction : Direction) : Prop where
  horizontal : direction.horizontal ≠ .eq → other.horizontal = direction.horizontal
  vertical : direction.vertical ≠ .eq → other.vertical = direction.vertical

theorem horizontal_ofSigns (across down : Ordering) : (ofSigns across down).horizontal = across := by
  cases across <;> cases down <;> decide

theorem vertical_ofSigns (across down : Ordering) : (ofSigns across down).vertical = down := by
  cases across <;> cases down <;> decide

theorem ofSigns_eq_centered_iff (across down : Ordering) :
    ofSigns across down = centered ↔ across = .eq ∧ down = .eq := by
  cases across <;> cases down <;> decide

theorem mirrored_ofSigns (across down : Ordering) :
    (ofSigns across down).mirrored = ofSigns across.swap down := by
  cases across <;> cases down <;> decide

theorem transposed_ofSigns (across down : Ordering) :
    (ofSigns across down).transposed = ofSigns down across := by
  cases across <;> cases down <;> decide

end Direction

namespace StickSample

def horizontal (sample : StickSample) : Int := sample.x.toNat - 127

def vertical (sample : StickSample) : Int := sample.y.toNat - 127

/-- The other sample is no nearer to the middle on either axis, and on none beyond the middle. -/
structure Within (sample other : StickSample) : Prop where
  horizontal : |sample.horizontal| ≤ |other.horizontal|
  vertical : |sample.vertical| ≤ |other.vertical|
  sameHorizontal : 0 ≤ sample.horizontal * other.horizontal
  sameVertical : 0 ≤ sample.vertical * other.vertical

def mirrored (sample : StickSample) : StickSample := { sample with x := 254 - sample.x }

def upended (sample : StickSample) : StickSample := { sample with y := 254 - sample.y }

def transposed (sample : StickSample) : StickSample where
  x := sample.y
  y := sample.x

theorem opposite_offset {coordinate : UInt8} (opposed : coordinate ≤ 254) :
    ((254 - coordinate).toNat : Int) - 127 = -(coordinate.toNat - 127) := by
  have bound : coordinate.toNat ≤ 254 := UInt8.le_iff_toNat_le.mp opposed
  have value : (254 - coordinate).toNat = 254 - coordinate.toNat := UInt8.toNat_sub_of_le _ _ opposed
  rw [value]
  omega

end StickSample

namespace Quantizer

/-! ## Values without overflow -/

theorem toInt_offset (coordinate : UInt8) : (offset coordinate).toInt = coordinate.toNat - 127 := by
  have bound := coordinate.toNat_lt
  have whole : (Int32.ofNat coordinate.toNat).toInt = coordinate.toNat :=
    Int32.toInt_ofNat_of_lt (by omega)
  have middle : (127 : Int32).toInt = 127 := by decide
  rw [offset, Int32.toInt_sub, whole, middle]
  apply Int.bmod_eq_of_le_mul_two <;> omega

theorem abs_toInt_offset_le (coordinate : UInt8) : |(offset coordinate).toInt| ≤ 128 := by
  have bound := coordinate.toNat_lt
  rw [toInt_offset, abs_le]
  omega

theorem square_offset_le (coordinate : UInt8) : (offset coordinate).toInt ^ 2 ≤ 128 ^ 2 := by
  apply sq_le_sq.mpr
  rw [abs_of_pos (by decide : (0 : Int) < 128)]
  exact abs_toInt_offset_le coordinate

theorem toInt_square_offset (coordinate : UInt8) :
    (offset coordinate * offset coordinate).toInt = (offset coordinate).toInt ^ 2 := by
  have upper := square_offset_le coordinate
  have lower := sq_nonneg (offset coordinate).toInt
  rw [Int32.toInt_mul, ← sq]
  apply Int.bmod_eq_of_le_mul_two <;> omega

theorem toInt_distanceSquared (sample : StickSample) :
    (distanceSquared sample).toInt = (offset sample.x).toInt ^ 2 + (offset sample.y).toInt ^ 2 := by
  have acrossUpper := square_offset_le sample.x
  have acrossLower := sq_nonneg (offset sample.x).toInt
  have downUpper := square_offset_le sample.y
  have downLower := sq_nonneg (offset sample.y).toInt
  rw [distanceSquared, Int32.toInt_add, toInt_square_offset, toInt_square_offset]
  apply Int.bmod_eq_of_le_mul_two <;> omega

theorem toInt_neg_of_nonneg {band : Int32} (nonneg : 0 ≤ band) : (-band).toInt = -band.toInt := by
  have lower : 0 ≤ band.toInt := Int32.le_iff_toInt_le.mp nonneg
  have upper := band.toInt_lt
  rw [Int32.toInt_neg]
  apply Int.bmod_eq_of_le_mul_two <;> omega

/-! ## Directions over the integers -/

variable (quantizer : Quantizer)

def InDeadZone (sample : StickSample) : Prop :=
  sample.horizontal ^ 2 + sample.vertical ^ 2 ≤ quantizer.deadZoneSquared.toInt

instance (sample : StickSample) : Decidable (quantizer.InDeadZone sample) :=
  inferInstanceAs (Decidable (_ ≤ _))

def InBand (sample : StickSample) : Prop :=
  |sample.horizontal| ≤ quantizer.axisBand.toInt ∧ |sample.vertical| ≤ quantizer.axisBand.toInt

def axisSide (offset : Int) : Ordering :=
  if quantizer.axisBand.toInt < offset then .gt
  else if offset < -quantizer.axisBand.toInt then .lt
  else .eq

theorem axisSide_of_right {offset : Int} (right : quantizer.axisBand.toInt < offset) :
    quantizer.axisSide offset = .gt := if_pos right

theorem axisSide_of_left (nonneg : 0 ≤ quantizer.axisBand.toInt) {offset : Int}
    (left : offset < -quantizer.axisBand.toInt) : quantizer.axisSide offset = .lt := by
  have notRight : ¬quantizer.axisBand.toInt < offset := by omega
  rw [axisSide, if_neg notRight, if_pos left]

theorem axisSide_eq_iff (offset : Int) :
    quantizer.axisSide offset = .eq ↔ |offset| ≤ quantizer.axisBand.toInt := by
  unfold axisSide
  rw [abs_le]
  split_ifs <;> simp <;> omega

theorem axisSide_neg (nonneg : 0 ≤ quantizer.axisBand.toInt) (offset : Int) :
    quantizer.axisSide (-offset) = (quantizer.axisSide offset).swap := by
  by_cases right : quantizer.axisBand.toInt < offset
  · rw [quantizer.axisSide_of_right right, quantizer.axisSide_of_left nonneg (by omega)]
    rfl
  · by_cases left : offset < -quantizer.axisBand.toInt
    · rw [quantizer.axisSide_of_left nonneg left, quantizer.axisSide_of_right (by omega)]
      rfl
    · have inside : |offset| ≤ quantizer.axisBand.toInt := abs_le.mpr (by omega)
      rw [(quantizer.axisSide_eq_iff offset).mpr inside,
        (quantizer.axisSide_eq_iff (-offset)).mpr (by rwa [abs_neg])]
      rfl

theorem axisSide_of_further (nonneg : 0 ≤ quantizer.axisBand.toInt) {offset further : Int}
    (grows : |offset| ≤ |further|) (sameSign : 0 ≤ offset * further)
    (outside : quantizer.axisSide offset ≠ .eq) :
    quantizer.axisSide further = quantizer.axisSide offset := by
  -- Outside the band an offset is not zero, so the product says on which side the other one is.
  rw [Ne, quantizer.axisSide_eq_iff, not_le, lt_abs] at outside
  rcases outside with right | left
  · have positive : 0 < offset := by omega
    have rightOrMiddle : 0 ≤ further := nonneg_of_mul_nonneg_right sameSign positive
    rw [abs_of_pos positive, abs_of_nonneg rightOrMiddle] at grows
    rw [quantizer.axisSide_of_right right, quantizer.axisSide_of_right (by omega)]
  · have negative : offset < 0 := by omega
    have leftOrMiddle : further ≤ 0 := nonpos_of_mul_nonneg_right sameSign negative
    rw [abs_of_neg negative, abs_of_nonpos leftOrMiddle] at grows
    rw [quantizer.axisSide_of_left nonneg (by omega), quantizer.axisSide_of_left nonneg (by omega)]

theorem axisSign_eq (nonneg : 0 ≤ quantizer.axisBand) (value : Int32) :
    quantizer.axisSign value = quantizer.axisSide value.toInt := by
  simp only [axisSign, axisSide, Int32.lt_iff_toInt_lt, toInt_neg_of_nonneg nonneg]

theorem quantize_eq (nonneg : 0 ≤ quantizer.axisBand) (sample : StickSample) :
    quantizer.quantize sample =
      if quantizer.InDeadZone sample then .centered
      else .ofSigns (quantizer.axisSide sample.horizontal) (quantizer.axisSide sample.vertical) := by
  have distance : distanceSquared sample ≤ quantizer.deadZoneSquared ↔ quantizer.InDeadZone sample := by
    rw [Int32.le_iff_toInt_le, toInt_distanceSquared, toInt_offset, toInt_offset]
    rfl
  simp only [quantize, distance, quantizer.axisSign_eq nonneg, toInt_offset]
  rfl

theorem quantize_eq_centered_iff (nonneg : 0 ≤ quantizer.axisBand) (sample : StickSample) :
    quantizer.quantize sample = .centered ↔
      quantizer.InDeadZone sample ∨ quantizer.InBand sample := by
  rw [quantizer.quantize_eq nonneg]
  split
  next inside => simp [inside]
  next outside =>
    rw [Direction.ofSigns_eq_centered_iff, axisSide_eq_iff, axisSide_eq_iff, or_iff_right outside]
    rfl

/-- The band does not show where the dead zone covers its corners. -/
theorem inDeadZone_of_inBand {sample : StickSample}
    (covered : 2 * quantizer.axisBand.toInt ^ 2 ≤ quantizer.deadZoneSquared.toInt)
    (inBand : quantizer.InBand sample) : quantizer.InDeadZone sample := by
  have across : sample.horizontal ^ 2 ≤ quantizer.axisBand.toInt ^ 2 :=
    sq_le_sq.mpr (inBand.1.trans (le_abs_self _))
  have down : sample.vertical ^ 2 ≤ quantizer.axisBand.toInt ^ 2 :=
    sq_le_sq.mpr (inBand.2.trans (le_abs_self _))
  unfold InDeadZone
  omega

theorem quantize_eq_centered_iff_of_covered (nonneg : 0 ≤ quantizer.axisBand)
    (covered : 2 * quantizer.axisBand.toInt ^ 2 ≤ quantizer.deadZoneSquared.toInt)
    (sample : StickSample) :
    quantizer.quantize sample = .centered ↔ quantizer.InDeadZone sample := by
  rw [quantizer.quantize_eq_centered_iff nonneg]
  exact or_iff_left_of_imp (quantizer.inDeadZone_of_inBand covered)

/-! ## Turning a sample over -/

theorem quantize_turned (nonneg : 0 ≤ quantizer.axisBand) {sample other : StickSample}
    (turn : Direction → Direction) (rest : turn .centered = .centered)
    (distance : other.horizontal ^ 2 + other.vertical ^ 2 =
      sample.horizontal ^ 2 + sample.vertical ^ 2)
    (sides : turn (.ofSigns (quantizer.axisSide sample.horizontal)
        (quantizer.axisSide sample.vertical)) =
      .ofSigns (quantizer.axisSide other.horizontal) (quantizer.axisSide other.vertical)) :
    quantizer.quantize other = turn (quantizer.quantize sample) := by
  have zone : quantizer.InDeadZone other ↔ quantizer.InDeadZone sample := by
    unfold InDeadZone
    rw [distance]
  rw [quantizer.quantize_eq nonneg, quantizer.quantize_eq nonneg, apply_ite turn, rest, sides]
  simp only [zone]

theorem quantize_mirrored (nonneg : 0 ≤ quantizer.axisBand) (sample : StickSample)
    (opposed : sample.x ≤ 254) :
    quantizer.quantize sample.mirrored = (quantizer.quantize sample).mirrored := by
  have across : sample.mirrored.horizontal = -sample.horizontal :=
    StickSample.opposite_offset opposed
  have down : sample.mirrored.vertical = sample.vertical := rfl
  apply quantizer.quantize_turned nonneg Direction.mirrored rfl
  · rw [across, down, neg_sq]
  · rw [across, down, quantizer.axisSide_neg (Int32.le_iff_toInt_le.mp nonneg),
      Direction.mirrored_ofSigns]

theorem quantize_transposed (nonneg : 0 ≤ quantizer.axisBand) (sample : StickSample) :
    quantizer.quantize sample.transposed = (quantizer.quantize sample).transposed := by
  apply quantizer.quantize_turned nonneg Direction.transposed rfl
  · exact add_comm _ _
  · exact Direction.transposed_ofSigns _ _

theorem quantize_upended (nonneg : 0 ≤ quantizer.axisBand) (sample : StickSample)
    (opposed : sample.y ≤ 254) :
    quantizer.quantize sample.upended = (quantizer.quantize sample).upended := by
  have turned : sample.upended = sample.transposed.mirrored.transposed := rfl
  have back (direction : Direction) :
      direction.transposed.mirrored.transposed = direction.upended := by
    cases direction <;> decide
  rw [turned, quantizer.quantize_transposed nonneg,
    quantizer.quantize_mirrored nonneg sample.transposed opposed,
    quantizer.quantize_transposed nonneg, back]

/-! ## Samples further out -/

theorem quantize_of_further (nonneg : 0 ≤ quantizer.axisBand) {sample other : StickSample}
    (further : sample.Within other) (pushed : quantizer.quantize sample ≠ .centered) :
    quantizer.quantize other ≠ .centered ∧
      (quantizer.quantize other).Keeps (quantizer.quantize sample) := by
  have band : 0 ≤ quantizer.axisBand.toInt := Int32.le_iff_toInt_le.mp nonneg
  have across := quantizer.axisSide_of_further band further.horizontal further.sameHorizontal
  have down := quantizer.axisSide_of_further band further.vertical further.sameVertical
  have outside : ¬quantizer.InDeadZone sample ∧ ¬quantizer.InBand sample := by
    rwa [Ne, quantizer.quantize_eq_centered_iff nonneg, not_or] at pushed
  have otherOutside : ¬quantizer.InDeadZone other := by
    have acrossGrows := sq_le_sq.mpr further.horizontal
    have downGrows := sq_le_sq.mpr further.vertical
    have beyond := outside.1
    unfold InDeadZone at beyond ⊢
    omega
  have keeps : (quantizer.quantize other).Keeps (quantizer.quantize sample) := by
    rw [quantizer.quantize_eq nonneg, quantizer.quantize_eq nonneg, if_neg outside.1,
      if_neg otherOutside]
    constructor
    · rw [Direction.horizontal_ofSigns, Direction.horizontal_ofSigns]
      exact across
    · rw [Direction.vertical_ofSigns, Direction.vertical_ofSigns]
      exact down
  refine ⟨?_, keeps⟩
  rw [Ne, quantizer.quantize_eq_centered_iff nonneg, not_or]
  refine ⟨otherOutside, ?_⟩
  intro otherInBand
  exact outside.2 ⟨further.horizontal.trans otherInBand.1, further.vertical.trans otherInBand.2⟩

/-! ## The calculation step by step -/

def word? (value : Int) : Option Int32 :=
  if Int32.minValue.toInt ≤ value ∧ value ≤ Int32.maxValue.toInt then some (.ofInt value) else none

def axisSignChecked (value : Int32) : Option Ordering :=
  if quantizer.axisBand < value then some .gt
  else do
    let left ← word? (-quantizer.axisBand.toInt)
    return if value < left then .lt else .eq

/-- The direction by the same steps, given up at the first value that no word holds. -/
def quantizeChecked (sample : StickSample) : Option Direction := do
  let across ← word? (sample.x.toNat - 127)
  let down ← word? (sample.y.toNat - 127)
  let acrossSquared ← word? (across.toInt * across.toInt)
  let downSquared ← word? (down.toInt * down.toInt)
  let distance ← word? (acrossSquared.toInt + downSquared.toInt)
  if distance ≤ quantizer.deadZoneSquared then return .centered
  else
    let horizontal ← quantizer.axisSignChecked across
    let vertical ← quantizer.axisSignChecked down
    return .ofSigns horizontal vertical

theorem word?_toInt (word : Int32) : word? word.toInt = some word := by
  rw [word?, if_pos ⟨word.minValue_le_toInt, word.toInt_le⟩, Int32.ofInt_toInt]

theorem axisSignChecked_eq (nonneg : 0 ≤ quantizer.axisBand) (value : Int32) :
    quantizer.axisSignChecked value = some (quantizer.axisSign value) := by
  rw [axisSignChecked, axisSign, ← toInt_neg_of_nonneg nonneg, word?_toInt]
  exact (apply_ite some _ _ _).symm

theorem quantizeChecked_eq (nonneg : 0 ≤ quantizer.axisBand) (sample : StickSample) :
    quantizer.quantizeChecked sample = some (quantizer.quantize sample) := by
  have square (coordinate : UInt8) :
      (offset coordinate).toInt * (offset coordinate).toInt =
        (offset coordinate * offset coordinate).toInt := by
    rw [toInt_square_offset, sq]
  have sum : (offset sample.x * offset sample.x).toInt + (offset sample.y * offset sample.y).toInt =
      (distanceSquared sample).toInt := by
    rw [toInt_distanceSquared, toInt_square_offset, toInt_square_offset]
  -- Each exact value is that of the word in the wrapping calculation, so that word is the one found.
  simp only [quantizeChecked, ← toInt_offset, word?_toInt, square, sum, Option.bind_eq_bind,
    Option.bind_some, quantizer.axisSignChecked_eq nonneg]
  exact (apply_ite some _ _ _).symm

/-! ## Thresholds of configurations -/

/-- The thresholds of some configuration that passes its check. -/
def Accepted : Prop :=
  ∃ configuration : Configuration,
    configuration.quantizer = quantizer ∧ configuration.validate = .ok ()

theorem accepted_iff :
    quantizer.Accepted ↔ 0 ≤ quantizer.deadZoneSquared ∧ 0 ≤ quantizer.axisBand := by
  constructor
  · intro accepted
    obtain ⟨configuration, rfl, valid⟩ := accepted
    simp only [Configuration.validate] at valid
    split at valid
    next => cases valid
    next zone =>
      split at valid
      next => cases valid
      next band => exact ⟨Int32.not_lt.mp zone, Int32.not_lt.mp band⟩
  · intro nonneg
    refine ⟨{ quantizer }, rfl, ?_⟩
    have zone : ¬quantizer.deadZoneSquared < 0 := Int32.not_lt.mpr nonneg.1
    have band : ¬quantizer.axisBand < 0 := Int32.not_lt.mpr nonneg.2
    have level : LogLevel.parse "info" = .ok .info := by rfl
    rw [Configuration.validate, if_neg zone, if_neg band, Configuration.maxLevel, level]
    rfl

/-- With the thresholds of a configuration that passes its check every step of the calculation has
the value that is meant. A sample counts as at rest exactly if it is in the dead zone or both its
axes are in the band, so the band does not show where the dead zone covers its corners, as with the
thresholds of a configuration that names none. A sample turned over on one axis or on the diagonal
has the direction turned over, where there is such a sample, and a sample further out, on the same
side, keeps each part of the direction. -/
theorem quantize_symmetric_and_outward (accepted : quantizer.Accepted) (sample : StickSample) :
    quantizer.quantizeChecked sample = some (quantizer.quantize sample) ∧
    (quantizer.quantize sample = .centered ↔
      quantizer.InDeadZone sample ∨ quantizer.InBand sample) ∧
    (2 * quantizer.axisBand.toInt ^ 2 ≤ quantizer.deadZoneSquared.toInt →
      (quantizer.quantize sample = .centered ↔ quantizer.InDeadZone sample)) ∧
    (({} : Quantizer).quantize sample = .centered ↔ ({} : Quantizer).InDeadZone sample) ∧
    (sample.x ≤ 254 →
      quantizer.quantize sample.mirrored = (quantizer.quantize sample).mirrored) ∧
    (sample.y ≤ 254 → quantizer.quantize sample.upended = (quantizer.quantize sample).upended) ∧
    quantizer.quantize sample.transposed = (quantizer.quantize sample).transposed ∧
    ∀ other, sample.Within other → quantizer.quantize sample ≠ .centered →
      quantizer.quantize other ≠ .centered ∧
        (quantizer.quantize other).Keeps (quantizer.quantize sample) := by
  have nonneg : 0 ≤ quantizer.axisBand := (quantizer.accepted_iff.mp accepted).2
  refine ⟨quantizer.quantizeChecked_eq nonneg sample, quantizer.quantize_eq_centered_iff nonneg sample,
    ?_, ?_, quantizer.quantize_mirrored nonneg sample, quantizer.quantize_upended nonneg sample,
    quantizer.quantize_transposed nonneg sample, ?_⟩
  · intro covered
    exact quantizer.quantize_eq_centered_iff_of_covered nonneg covered sample
  · apply quantize_eq_centered_iff_of_covered
    · decide
    · decide
  · intro other further pushed
    exact quantizer.quantize_of_further nonneg further pushed

/-- A dead zone of one point leaves a square in which both axes count as zero. The sample stands
just outside it on the left, and far outside it above. -/
theorem quantize_beyond_square :
    ({ deadZoneSquared := 0, axisBand := 60 } : Quantizer).Accepted ∧
    ({ deadZoneSquared := 0, axisBand := 60 } : Quantizer).quantize { x := 66, y := 0 } = .upLeft ∧
    ({ deadZoneSquared := 0, axisBand := 60 } : Quantizer).quantize { x := 188, y := 0 } = .upRight ∧
    ({ deadZoneSquared := 0, axisBand := 60 } : Quantizer).quantize { x := 0, y := 66 } = .upLeft ∧
    ({ deadZoneSquared := 0, axisBand := 60 } : Quantizer).quantize { x := 40, y := 0 } ≠ .centered := by
  have accepted : ({ deadZoneSquared := 0, axisBand := 60 } : Quantizer).Accepted :=
    (accepted_iff _).mpr (by decide)
  have direction :
      ({ deadZoneSquared := 0, axisBand := 60 } : Quantizer).quantize { x := 66, y := 0 } = .upLeft := by
    decide
  obtain ⟨-, -, -, -, mirrored, -, transposed, further⟩ :=
    quantize_symmetric_and_outward _ accepted { x := 66, y := 0 }
  rw [direction] at mirrored transposed
  refine ⟨accepted, direction, mirrored (by decide), transposed, ?_⟩
  have within : StickSample.Within { x := 66, y := 0 } { x := 40, y := 0 } := by
    constructor <;> decide
  exact (further _ within (by rw [direction]; decide)).1

end Quantizer

end Gamepad
