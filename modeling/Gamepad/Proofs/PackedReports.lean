import Gamepad.Proofs.SilentReports
import Mathlib.Data.Nat.Bitwise

/-!
The eight bytes of a report, and reports whose switches are packed into masks as they are in the
bytes. Main statements: decoding and encoding undo each other, but for the numbers of the dpad that
have no direction, which come back as rest; and calls that build a report do the same to its masks,
which they keep within their widths.
-/

namespace Gamepad

/-! ## Bits and their numbers -/

namespace Report

theorem numberOfBits_lt (bits : List Bool) : numberOfBits bits < 2 ^ bits.length := by
  induction bits with
  | nil => decide
  | cons bit rest ih =>
    have small := bit.toNat_lt
    rw [numberOfBits, List.length_cons, pow_succ]
    omega

theorem testBit_numberOfBits (bits : List Bool) (index : Nat) :
    (numberOfBits bits).testBit index = bits[index]?.getD false := by
  induction bits generalizing index with
  | nil => simp [numberOfBits]
  | cons bit rest ih =>
    cases index with
    | zero => cases bit <;> simp [numberOfBits]
    | succ index =>
      have small := bit.toNat_lt
      have half : numberOfBits (bit :: rest) / 2 = numberOfBits rest := by
        rw [numberOfBits]
        omega
      rw [Nat.testBit_succ, half, ih, List.getElem?_cons_succ]

theorem numberOfBits_testBit (number width : Nat) :
    numberOfBits ((List.range width).map number.testBit) = number % 2 ^ width := by
  apply Nat.eq_of_testBit_eq
  intro index
  rw [testBit_numberOfBits, Nat.testBit_mod_two_pow, List.getElem?_map]
  by_cases inside : index < width
  · simp [inside]
  · simp [inside]

def mask (bits : List Bool) : UInt8 := .ofNat (numberOfBits bits)

theorem toNat_mask {bits : List Bool} (short : bits.length ≤ 8) :
    (mask bits).toNat = numberOfBits bits := by
  apply UInt8.toNat_ofNat_of_lt'
  exact (numberOfBits_lt bits).trans_le (Nat.pow_le_pow_right (by decide) short)

/-! ## Bytes and back -/

theorem toNat_dpadByte (report : Report) :
    report.encode.dpadByte.toNat = 2 ^ 4 * numberOfBits report.buttons.toList + report.dpad.index := by
  have small := report.dpad.index.isLt
  have few := numberOfBits_lt report.buttons.toList
  rw [Vector.length_toList] at few
  change (UInt8.ofNat _).toNat = _
  rw [UInt8.toNat_ofNat']
  omega

theorem dpadOfByte_encode (report : Report) : dpadOfByte report.encode.dpadByte = report.dpad := by
  have small := report.dpad.index.isLt
  have low : report.encode.dpadByte.toNat % 16 = report.dpad.index := by
    rw [toNat_dpadByte]
    omega
  rw [dpadOfByte, low, Direction.ofIndex?_index]
  rfl

theorem testBit_encode_buttons (report : Report) (index : Nat) :
    report.encode.dpadByte.toNat.testBit (4 + index) = report.button index := by
  have small : report.dpad.index.val < 2 ^ 4 := Nat.lt_trans report.dpad.index.isLt (by decide)
  have beyond : ¬4 + index < 4 := by omega
  rw [toNat_dpadByte, Nat.testBit_two_pow_mul_add _ small, if_neg beyond, Nat.add_sub_cancel_left,
    testBit_numberOfBits, Vector.getElem?_toList]
  rfl

theorem sidesOfByte_mask {bits : List Bool} (short : bits.length ≤ 8) (bit : Nat) :
    sidesOfByte (mask bits) bit =
      { left := bits[bit]?.getD false
        right := bits[bit + 1]?.getD false } := by
  rw [sidesOfByte, toNat_mask short, testBit_numberOfBits, testBit_numberOfBits]

theorem decode_encode (report : Report) : decode report.encode = report := by
  have buttons : (Vector.ofFn fun index : Fin 4 => report.encode.dpadByte.toNat.testBit (4 + index)) =
      report.buttons := by
    apply Vector.ext
    intro index inside
    rw [Vector.getElem_ofFn, testBit_encode_buttons, button, Vector.getElem?_eq_getElem inside]
    rfl
  have sides := sidesOfByte_mask (Nat.le_refl report.sideBits.length)
  exact (Report.mk.injEq ..).mpr ⟨rfl, report.dpadOfByte_encode, buttons, sides 0, sides 2, sides 4,
    sides 6, rfl, rfl⟩

theorem index_dpadOfByte (byte : UInt8) : (dpadOfByte byte).index.val = min (byte.toNat % 16) 8 := by
  have numbers : ∀ number < 16, ((Direction.ofIndex? number).getD .centered).index.val =
      min number 8 := by decide
  exact numbers _ (Nat.mod_lt _ (by decide))

end Report

/-- What is left of a report when it has been decoded: a number of the dpad that has no direction
becomes that of rest. -/
def RawReport.settled (raw : RawReport) : RawReport :=
  if 8 < raw.dpadNumber then raw.withDpadAtRest else raw

def RawReport.byte (raw : RawReport) (number : Nat) : UInt8 := raw[number]?.getD 0

def RawReport.sideByte (raw : RawReport) : UInt8 := raw.byte 5

namespace Report

theorem numberOfBits_buttons (byte : UInt8) :
    numberOfBits (Vector.ofFn fun index : Fin 4 => byte.toNat.testBit (4 + index)).toList =
      byte.toNat / 16 := by
  have bound := byte.toNat_lt
  have high : (fun index => byte.toNat.testBit (4 + index)) = (byte.toNat / 2 ^ 4).testBit := by
    funext index
    rw [← Nat.shiftRight_eq_div_pow, Nat.testBit_shiftRight]
  change numberOfBits ((List.range 4).map fun index => byte.toNat.testBit (4 + index)) = _
  rw [high, numberOfBits_testBit]
  omega

theorem toNat_dpadByte_decode (raw : RawReport) :
    (decode raw).encode.dpadByte.toNat =
      16 * (raw.dpadByte.toNat / 16) + min (raw.dpadByte.toNat % 16) 8 := by
  rw [toNat_dpadByte, ← numberOfBits_buttons, ← index_dpadOfByte]
  rfl

theorem sideByte_decode (raw : RawReport) : (decode raw).encode.sideByte = raw.sideByte := by
  have bits : (decode raw).sideBits = (List.range 8).map raw.sideByte.toNat.testBit := rfl
  change UInt8.ofNat (numberOfBits (decode raw).sideBits) = raw.sideByte
  rw [bits, numberOfBits_testBit, Nat.mod_eq_of_lt raw.sideByte.toNat_lt, UInt8.ofNat_toNat]

theorem encode_decode_set (raw : RawReport) :
    (decode raw).encode = raw.setIfInBounds 4 (decode raw).encode.dpadByte := by
  apply Vector.ext
  intro index inside
  rw [Vector.getElem_setIfInBounds]
  match index with
  | 0 | 1 | 2 | 3 | 4 | 6 | 7 => rfl
  | 5 => exact sideByte_decode raw

theorem encode_decode (raw : RawReport) : (decode raw).encode = raw.settled := by
  have number : raw.dpadNumber = raw.dpadByte.toNat % 16 := rfl
  have byte := toNat_dpadByte_decode raw
  -- The two sides can only differ in the byte of the dpad, and there by its low half.
  rw [encode_decode_set, RawReport.settled]
  split
  next undirected =>
    have rest : (decode raw).encode.dpadByte = restDpad raw.dpadByte := by
      apply UInt8.toNat_inj.mp
      rw [toNat_restDpad, byte]
      omega
    rw [rest]
    rfl
  next directed =>
    have same : (decode raw).encode.dpadByte = raw.dpadByte := by
      apply UInt8.toNat_inj.mp
      rw [byte]
      omega
    apply Vector.ext
    intro index inside
    rw [same, Vector.getElem_setIfInBounds]
    split
    next here =>
      subst here
      rfl
    next => rfl

end Report

/-! ## Masks -/

theorem UInt8.eq_of_testBit {one other : UInt8}
    (same : ∀ index < 8, one.toNat.testBit index = other.toNat.testBit index) : one = other := by
  apply UInt8.toNat_inj.mp
  apply Nat.eq_of_testBit_eq
  intro index
  by_cases inside : index < 8
  · exact same index inside
  · have beyond : 2 ^ 8 ≤ 2 ^ index := Nat.pow_le_pow_right (by decide) (Nat.not_lt.mp inside)
    rw [Nat.testBit_lt_two_pow (one.toNat_lt.trans_le beyond),
      Nat.testBit_lt_two_pow (other.toNat_lt.trans_le beyond)]

namespace Report

def bitAt (position : Nat) : UInt8 := (1 : UInt8) <<< UInt8.ofNat position

def setBit (mask bit : UInt8) (on : Bool) : UInt8 := if on then mask ||| bit else mask &&& ~~~bit

theorem toNat_bitAt {position : Nat} (inside : position < 8) : (bitAt position).toNat = 2 ^ position := by
  have all : ∀ position < 8, (bitAt position).toNat = 2 ^ position := by decide
  exact all position inside

theorem testBit_setBit (mask : UInt8) {position index : Nat} (inside : position < 8)
    (indexInside : index < 8) (on : Bool) :
    (setBit mask (bitAt position) on).toNat.testBit index =
      if position = index then on else mask.toNat.testBit index := by
  have small : 2 ^ position < 2 ^ 8 := Nat.pow_lt_pow_right (by decide) inside
  have cleared : (~~~bitAt position).toNat = 2 ^ 8 - (2 ^ position + 1) := by
    rw [UInt8.toNat_not, toNat_bitAt inside]
    change 256 - 1 - 2 ^ position = 256 - (2 ^ position + 1)
    omega
  unfold setBit
  cases on with
  | true =>
    rw [if_pos rfl, UInt8.toNat_or, toNat_bitAt inside, Nat.testBit_lor, Nat.testBit_two_pow]
    by_cases here : position = index <;> simp [here]
  | false =>
    rw [if_neg (by decide), UInt8.toNat_and, cleared, Nat.testBit_land,
      Nat.testBit_two_pow_sub_succ small, Nat.testBit_two_pow]
    by_cases here : position = index <;> simp [here, indexInside]

theorem mask_set (bits : List Bool) (short : bits.length ≤ 8) {position : Nat}
    (inside : position < bits.length) (on : Bool) :
    mask (bits.set position on) = setBit (mask bits) (bitAt position) on := by
  apply UInt8.eq_of_testBit
  intro index indexInside
  have setShort : (bits.set position on).length ≤ 8 := by rwa [List.length_set]
  rw [testBit_setBit _ (inside.trans_le short) indexInside, toNat_mask setShort, toNat_mask short,
    testBit_numberOfBits, testBit_numberOfBits, List.getElem?_set]
  by_cases here : position = index
  · rw [if_pos here, if_pos here, if_pos (here ▸ inside), Option.getD_some]
  · rw [if_neg here, if_neg here]

/-- Bits that come behind others stand above them. -/
theorem mask_append (first second : List Bool) (short : (first ++ second).length ≤ 8)
    (below : first.length < 8) :
    mask (first ++ second) = mask first ||| mask second <<< .ofNat first.length := by
  rw [List.length_append] at short
  have shift : (UInt8.ofNat first.length).toNat % 8 = first.length := by
    rw [UInt8.toNat_ofNat']
    omega
  -- A bit of the byte is one of the first bits, or it is behind them and shifted up by their number.
  apply UInt8.eq_of_testBit
  intro index inside
  rw [toNat_mask (List.length_append ▸ short), UInt8.toNat_or, UInt8.toNat_shiftLeft, shift,
    toNat_mask (by omega), toNat_mask (by omega), Nat.testBit_lor, Nat.testBit_mod_two_pow,
    Nat.testBit_shiftLeft, testBit_numberOfBits, testBit_numberOfBits, testBit_numberOfBits]
  by_cases early : index < first.length
  · simp [List.getElem?_append_left early, Nat.not_le.mpr early]
  · have late := Nat.not_lt.mp early
    simp [List.getElem?_append_right late, late, inside]

theorem mask_testBit (byte : UInt8) {width : Nat} (narrow : width ≤ 8) :
    mask ((List.range width).map byte.toNat.testBit) = byte &&& .ofNat (2 ^ width - 1) := by
  have bound : 2 ^ width ≤ 2 ^ 8 := Nat.pow_le_pow_right (by decide) narrow
  have ones : (UInt8.ofNat (2 ^ width - 1)).toNat = 2 ^ width - 1 := by
    rw [UInt8.toNat_ofNat']
    omega
  apply UInt8.toNat_inj.mp
  rw [toNat_mask (by simpa using narrow), numberOfBits_testBit, UInt8.toNat_and, ones,
    Nat.and_two_pow_sub_one_eq_mod]

theorem mask_window (byte : UInt8) {start width : Nat} (inside : start < 8) (narrow : width ≤ 8) :
    mask ((List.range width).map fun index => byte.toNat.testBit (start + index)) =
      (byte >>> .ofNat start) &&& .ofNat (2 ^ width - 1) := by
  have shift : (UInt8.ofNat start).toNat % 8 = start := by
    rw [UInt8.toNat_ofNat']
    omega
  have shifted : (fun index => byte.toNat.testBit (start + index)) =
      (byte >>> .ofNat start).toNat.testBit := by
    funext index
    rw [UInt8.toNat_shiftRight, shift, Nat.testBit_shiftRight]
  rw [shifted, mask_testBit _ narrow]

end Report

/-! ## Packed reports -/

inductive ReportEdit
  | stick (side : Side) (sample : StickSample)
  | dpad (direction : Direction)
  | button (index : Nat) (pressed : Bool)
  | bumper (side : Side) (pressed : Bool)
  | trigger (side : Side) (pressed : Bool)
  | option (side : Side) (pressed : Bool)
  | stickPress (side : Side) (pressed : Bool)

def Report.edit (report : Report) : ReportEdit → Report
  | .stick side sample => report.withStick side sample
  | .dpad direction => report.withDpad direction
  | .button index pressed => report.withButton index pressed
  | .bumper side pressed => report.withBumper side pressed
  | .trigger side pressed => report.withTrigger side pressed
  | .option side pressed => report.withOption side pressed
  | .stickPress side pressed => report.withStickPress side pressed

def Side.position : Side → Nat
  | .left => 0
  | .right => 1

/-- A report whose switches are packed as they are in the bytes. Its masks may have bits that no
report has. -/
structure PackedReport where
  sticks : PerSide StickSample
  dpad : Direction
  buttons : UInt8
  bumpers : UInt8
  triggers : UInt8
  options : UInt8
  stickPresses : UInt8
  mode : UInt8
  padding : UInt8

namespace PackedReport

open Report (bitAt setBit)

def idle : PackedReport where
  sticks := .both .centered
  dpad := .centered
  buttons := 0
  bumpers := 0
  triggers := 0
  options := 0
  stickPresses := 0
  mode := 0
  padding := 0

def ofBytes (raw : RawReport) : PackedReport where
  sticks :=
    { left := { x := raw.byte 0, y := raw.byte 1 }
      right := { x := raw.byte 2, y := raw.byte 3 } }
  dpad := (Direction.ofIndex? (raw.dpadByte &&& 0x0f).toNat).getD .centered
  buttons := (raw.dpadByte >>> 4) &&& 0x0f
  bumpers := raw.sideByte &&& 0x03
  triggers := (raw.sideByte >>> 2) &&& 0x03
  options := (raw.sideByte >>> 4) &&& 0x03
  stickPresses := (raw.sideByte >>> 6) &&& 0x03
  mode := raw.byte 6
  padding := raw.byte 7

/-- The masks are put together as they are, so a bit too many in one of them ends up in another. -/
def toBytes (report : PackedReport) : RawReport :=
  #v[report.sticks.left.x, report.sticks.left.y, report.sticks.right.x, report.sticks.right.y,
    (UInt8.ofNat report.dpad.index &&& (0x0f : UInt8)) ||| (report.buttons <<< 4),
    report.bumpers ||| (report.triggers <<< 2) ||| (report.options <<< 4) |||
      (report.stickPresses <<< 6),
    report.mode, report.padding]

def edit (report : PackedReport) : ReportEdit → PackedReport
  | .stick side sample => { report with sticks := report.sticks.set side sample }
  | .dpad direction => { report with dpad := direction }
  | .button index pressed =>
    if index < 4 then { report with buttons := setBit report.buttons (bitAt index) pressed }
    else report
  | .bumper side pressed =>
    { report with bumpers := setBit report.bumpers (bitAt side.position) pressed }
  | .trigger side pressed =>
    { report with triggers := setBit report.triggers (bitAt side.position) pressed }
  | .option side pressed =>
    { report with options := setBit report.options (bitAt side.position) pressed }
  | .stickPress side pressed =>
    { report with stickPresses := setBit report.stickPresses (bitAt side.position) pressed }

structure Fits (report : PackedReport) : Prop where
  buttons : report.buttons < 16
  bumpers : report.bumpers < 4
  triggers : report.triggers < 4
  options : report.options < 4
  stickPresses : report.stickPresses < 4

end PackedReport

namespace Report

def pack (report : Report) : PackedReport where
  sticks := report.sticks
  dpad := report.dpad
  buttons := mask report.buttons.toList
  bumpers := mask report.bumpers.toList
  triggers := mask report.triggers.toList
  options := mask report.options.toList
  stickPresses := mask report.stickPresses.toList
  mode := report.mode
  padding := report.padding

theorem mask_lt (bits : List Bool) (short : bits.length < 8) : mask bits < .ofNat (2 ^ bits.length) := by
  have bound := numberOfBits_lt bits
  have fits : 2 ^ bits.length < 2 ^ 8 := Nat.pow_lt_pow_right (by decide) short
  rw [UInt8.lt_iff_toNat_lt, toNat_mask short.le, UInt8.toNat_ofNat_of_lt' fits]
  exact bound

theorem fits_pack (report : Report) : report.pack.Fits where
  buttons := by
    have bound := mask_lt report.buttons.toList
    rw [Vector.length_toList] at bound
    exact bound (by decide)
  bumpers := mask_lt report.bumpers.toList (by decide : 2 < 8)
  triggers := mask_lt report.triggers.toList (by decide : 2 < 8)
  options := mask_lt report.options.toList (by decide : 2 < 8)
  stickPresses := mask_lt report.stickPresses.toList (by decide : 2 < 8)

theorem mask_sidesOfByte (byte : UInt8) {bit : Nat} (inside : bit < 8) :
    mask (sidesOfByte byte bit).toList = (byte >>> .ofNat bit) &&& 0x03 :=
  mask_window byte inside (by decide : 2 ≤ 8)

theorem pack_decode (raw : RawReport) : (decode raw).pack = PackedReport.ofBytes raw := by
  have low : (raw.dpadByte &&& 0x0f).toNat = raw.dpadByte.toNat % 16 := by
    rw [UInt8.toNat_and]
    exact Nat.and_two_pow_sub_one_eq_mod _ 4
  have dpad : dpadOfByte raw.dpadByte =
      (Direction.ofIndex? (raw.dpadByte &&& 0x0f).toNat).getD .centered := by
    rw [low, dpadOfByte]
  have buttons := mask_window raw.dpadByte (by decide : 4 < 8) (by decide : 4 ≤ 8)
  have bumpers : mask (sidesOfByte raw.sideByte 0).toList = raw.sideByte &&& 0x03 :=
    mask_testBit raw.sideByte (by decide : 2 ≤ 8)
  exact (PackedReport.mk.injEq ..).mpr ⟨rfl, dpad, buttons, bumpers, mask_sidesOfByte _ (by decide),
    mask_sidesOfByte _ (by decide), mask_sidesOfByte _ (by decide), rfl, rfl⟩

theorem dpadByte_pack (report : Report) :
    (UInt8.ofNat report.dpad.index &&& (0x0f : UInt8)) ||| (mask report.buttons.toList <<< 4) =
      report.encode.dpadByte := by
  have small : report.dpad.index.val < 2 ^ 4 := Nat.lt_trans report.dpad.index.isLt (by decide)
  have index : (UInt8.ofNat report.dpad.index &&& (0x0f : UInt8)).toNat = report.dpad.index := by
    have whole : (UInt8.ofNat report.dpad.index).toNat = report.dpad.index :=
      UInt8.toNat_ofNat_of_lt' (Nat.lt_trans small (by decide))
    rw [UInt8.toNat_and, whole]
    exact (Nat.and_two_pow_sub_one_eq_mod _ 4).trans (Nat.mod_eq_of_lt small)
  have short : report.buttons.toList.length ≤ 8 := by
    rw [Vector.length_toList]
    decide
  have few := numberOfBits_lt report.buttons.toList
  rw [Vector.length_toList] at few
  have high : (mask report.buttons.toList <<< 4).toNat = 2 ^ 4 * numberOfBits report.buttons.toList := by
    rw [UInt8.toNat_shiftLeft, toNat_mask short, Nat.shiftLeft_eq]
    change numberOfBits report.buttons.toList * 16 % 256 = _
    omega
  apply UInt8.toNat_inj.mp
  calc
    _ = report.dpad.index.val ||| 2 ^ 4 * numberOfBits report.buttons.toList := by
      rw [UInt8.toNat_or, index, high]
    _ = 2 ^ 4 * numberOfBits report.buttons.toList + report.dpad.index := by
      rw [Nat.two_pow_add_eq_or_of_lt small, Nat.lor_comm]
    _ = report.encode.dpadByte.toNat := report.toNat_dpadByte.symm

theorem sideByte_pack (report : Report) :
    mask report.sideBits =
      mask report.bumpers.toList ||| (mask report.triggers.toList <<< 2) |||
        (mask report.options.toList <<< 4) ||| (mask report.stickPresses.toList <<< 6) := by
  have last := mask_append
    (report.bumpers.toList ++ report.triggers.toList ++ report.options.toList)
    report.stickPresses.toList (by decide : 8 ≤ 8) (by decide : 6 < 8)
  have middle := mask_append (report.bumpers.toList ++ report.triggers.toList)
    report.options.toList (by decide : 6 ≤ 8) (by decide : 4 < 8)
  have first := mask_append report.bumpers.toList report.triggers.toList
    (by decide : 4 ≤ 8) (by decide : 2 < 8)
  rw [sideBits, last, middle, first]
  rfl

theorem toBytes_pack (report : Report) : report.pack.toBytes = report.encode := by
  simp only [PackedReport.toBytes, pack, report.dpadByte_pack, ← report.sideByte_pack]
  rfl

theorem mask_set_side (pair : PerSide Bool) (side : Side) (pressed : Bool) :
    mask (pair.set side pressed).toList = setBit (mask pair.toList) (bitAt side.position) pressed := by
  have written : (pair.set side pressed).toList = pair.toList.set side.position pressed := by
    cases side <;> rfl
  have inside : side.position < 2 := by cases side <;> decide
  rw [written, mask_set pair.toList (by decide : 2 ≤ 8) inside]

theorem pack_edit (report : Report) (edit : ReportEdit) :
    (report.edit edit).pack = report.pack.edit edit := by
  cases edit with
  | stick side sample => rfl
  | dpad direction => rfl
  | button index pressed =>
    have length : report.buttons.toList.length = 4 := Vector.length_toList
    simp only [Report.edit, withButton, pack, PackedReport.edit, Vector.toList_setIfInBounds]
    split
    next inside => rw [mask_set _ (by omega) (by omega)]
    next outside => rw [List.set_eq_of_length_le (by omega)]
  | bumper side pressed =>
    simp only [Report.edit, withBumper, pack, PackedReport.edit, mask_set_side]
  | trigger side pressed =>
    simp only [Report.edit, withTrigger, pack, PackedReport.edit, mask_set_side]
  | option side pressed =>
    simp only [Report.edit, withOption, pack, PackedReport.edit, mask_set_side]
  | stickPress side pressed =>
    simp only [Report.edit, withStickPress, pack, PackedReport.edit, mask_set_side]

/-- The same calls, from the same bytes or from a pad at rest, have built both. -/
inductive Built : Report → PackedReport → Prop
  | decoded (raw : RawReport) : Built (decode raw) (.ofBytes raw)
  | idle : Built idle .idle
  | edited {report : Report} {packed : PackedReport} (built : Built report packed)
      (edit : ReportEdit) : Built (report.edit edit) (packed.edit edit)

theorem Built.pack_eq {report : Report} {packed : PackedReport} (built : Built report packed) :
    report.pack = packed := by
  induction built with
  | decoded raw => exact pack_decode raw
  | idle => rfl
  -- A call does the same to the masks as to the switches.
  | edited _ edit ih => rw [pack_edit, ih]

theorem decode_settled (raw : RawReport) : decode raw.settled = decode raw := by
  rw [← encode_decode, decode_encode]

/-- Bytes that are decoded and encoded again come back as they were, but for a number of the dpad
without a direction, and this is also all that decoding loses. A report that is built by calls from
decoded bytes or from a pad at rest keeps every mask within its width, and it comes back as it was
when it is encoded and decoded again, with its switches in masks as well as one by one. -/
theorem codec_loses_nothing :
    (∀ raw, (decode raw).encode = raw.settled) ∧
    (∀ one other, decode one = decode other ↔ one.settled = other.settled) ∧
    ∀ report packed, Built report packed →
      packed.Fits ∧ packed.toBytes = report.encode ∧ decode report.encode = report ∧
        PackedReport.ofBytes packed.toBytes = packed := by
  refine ⟨encode_decode, ?_, ?_⟩
  -- Encoding takes a decoded report to what is left of its bytes, and decoding takes it back.
  · intro one other
    constructor
    · intro same
      rw [← encode_decode, ← encode_decode, same]
    · intro same
      rw [← decode_settled one, same, decode_settled]
  · intro report packed built
    obtain rfl := built.pack_eq
    refine ⟨report.fits_pack, report.toBytes_pack, report.decode_encode, ?_⟩
    calc
      PackedReport.ofBytes report.pack.toBytes = .ofBytes report.encode := by rw [toBytes_pack]
      _ = (decode report.encode).pack := (pack_decode _).symm
      _ = report.pack := by rw [decode_encode]

/-- The number fifteen has no direction; the buttons above it stay. -/
example : (decode #v[127, 127, 127, 127, 0x2f, 0x99, 4, 0xaa]).encode =
    #v[127, 127, 127, 127, 0x28, 0x99, 4, 0xaa] := by
  decide

end Report

end Gamepad
