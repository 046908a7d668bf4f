import Gamepad.Proofs.FiredControls
import Gamepad.Session
import Mathlib.Data.List.Destutter

/-!
Sequences of reports, each compared with the one before, for a queue of any capacity. Main
statement: only the outline of a sequence matters, that is, what is seen of its reports without
consecutive repeats.
-/

namespace Gamepad

structure KeyFeed (capacity : Nat) where
  previous : Report
  queue : KeyQueue capacity

namespace KeyFeed

variable {capacity : Nat} (quantizer : Quantizer) (keyMap : KeyMap)

def receive (feed : KeyFeed capacity) (current : Report) : List KeyCode × KeyFeed capacity :=
  let keys := Transition.keys quantizer keyMap feed.previous current
  (keys,
    { previous := current
      queue := feed.queue.pushAll keys })

def receiveAll : List RawReport → KeyFeed capacity → List KeyCode × KeyFeed capacity
  | [], feed => ([], feed)
  | raw :: rest, feed =>
    let (keys, feed) := feed.receive quantizer keyMap (.decode raw)
    let (later, feed) := receiveAll rest feed
    (keys ++ later, feed)

end KeyFeed

def Session.feed (session : Session) : KeyFeed 32 where
  previous := session.previous
  queue := session.queue

/-- A session takes in a report in this way. -/
theorem Session.feed_receive (session : Session) (keyMap : KeyMap) (quantizer : Quantizer)
    (current : Report) :
    (session.receive keyMap quantizer current).feed =
      (session.feed.receive quantizer keyMap current).2 := rfl

namespace Observation

def firedAlong : List Observation → List Control
  | before :: after :: rest => before.fired after ++ firedAlong (after :: rest)
  | _ => []

def sequence (quantizer : Quantizer) (raws : List RawReport) : List Observation :=
  (Report.idle :: raws.map Report.decode).map (Report.observe quantizer)

/-- What is seen of a sequence of reports, without consecutive repeats. -/
def outline (quantizer : Quantizer) (raws : List RawReport) : List Observation :=
  (sequence quantizer raws).destutter (· ≠ ·)

theorem exists_destutter'_eq_cons (before : Observation) (rest : List Observation) :
    ∃ tail, rest.destutter' (· ≠ ·) before = before :: tail := by
  induction rest with
  | nil => exact ⟨[], rfl⟩
  | cons after rest ih =>
    by_cases same : before = after
    · rw [List.destutter'_cons_neg _ (not_not.mpr same)]
      exact ih
    · exact ⟨_, List.destutter'_cons_pos _ same⟩

theorem firedAlong_destutter' (before : Observation) (rest : List Observation) :
    firedAlong (rest.destutter' (· ≠ ·) before) = firedAlong (before :: rest) := by
  induction rest generalizing before with
  | nil => rfl
  | cons after rest ih =>
    by_cases same : before = after
    · subst same
      rw [List.destutter'_cons_neg _ (not_not.mpr rfl), ih]
      simp only [firedAlong, fired_self, List.nil_append]
    · obtain ⟨tail, kept⟩ := exists_destutter'_eq_cons after rest
      calc firedAlong ((after :: rest).destutter' (· ≠ ·) before)
        _ = firedAlong (before :: after :: tail) := by
          rw [List.destutter'_cons_pos _ same, kept]
        _ = before.fired after ++ firedAlong (rest.destutter' (· ≠ ·) after) := by
          rw [firedAlong, kept]
        _ = firedAlong (before :: after :: rest) := by rw [ih, firedAlong]

theorem firedAlong_outline (quantizer : Quantizer) (raws : List RawReport) :
    firedAlong (outline quantizer raws) = firedAlong (sequence quantizer raws) :=
  firedAlong_destutter' _ _

theorem destutter'_repeat (first again : Observation) (before after : List Observation) :
    (before ++ again :: again :: after).destutter' (· ≠ ·) first =
      (before ++ again :: after).destutter' (· ≠ ·) first := by
  induction before generalizing first with
  | nil =>
    by_cases same : first = again
    · simp [same]
    · simp [same]
  | cons next before ih =>
    by_cases same : first = next
    · simp [same, ih]
    · simp [same, ih]

end Observation

/-! ## Changes that are not seen -/

namespace Report

def restDpad (byte : UInt8) : UInt8 := .ofNat (byte.toNat / 16 * 16 + 8)

theorem toNat_restDpad (byte : UInt8) : (restDpad byte).toNat = byte.toNat / 16 * 16 + 8 := by
  have bound := byte.toNat_lt
  rw [restDpad, UInt8.toNat_ofNat']
  omega

theorem dpadOfByte_restDpad (byte : UInt8) : dpadOfByte (restDpad byte) = .centered := by
  rw [dpadOfByte, toNat_restDpad, Nat.mul_add_mod_self_right]
  rfl

theorem testBit_restDpad (byte : UInt8) (index : Nat) :
    (restDpad byte).toNat.testBit (4 + index) = byte.toNat.testBit (4 + index) := by
  rw [toNat_restDpad, Nat.add_comm 4, Nat.testBit_add, Nat.testBit_add]
  congr 1
  omega

theorem dpadOfByte_of_undirected (byte : UInt8) (undirected : 8 < byte.toNat % 16) :
    dpadOfByte byte = .centered := by
  have absent : Direction.ofIndex? (byte.toNat % 16) = none :=
    List.getElem?_eq_none (Nat.succ_le_of_lt undirected)
  rw [dpadOfByte, absent]
  rfl

end Report

namespace RawReport

def dpadByte (raw : RawReport) : UInt8 := raw.get 4

def dpadNumber (raw : RawReport) : Nat := raw.dpadByte.toNat % 16

def withDpadAtRest (raw : RawReport) : RawReport :=
  raw.setIfInBounds 4 (Report.restDpad raw.dpadByte)

def withStick (raw : RawReport) (side : Side) (sample : StickSample) : RawReport :=
  match side with
  | .left => (raw.setIfInBounds 0 sample.x).setIfInBounds 1 sample.y
  | .right => (raw.setIfInBounds 2 sample.x).setIfInBounds 3 sample.y

def withMode (raw : RawReport) (byte : UInt8) : RawReport := raw.setIfInBounds 6 byte

def withPadding (raw : RawReport) (byte : UInt8) : RawReport := raw.setIfInBounds 7 byte

end RawReport

/-- A change of a report that cannot be seen: another mode or padding, the dpad at rest where its
number has no direction, and a stick that stays in its octant. -/
inductive Unseen (quantizer : Quantizer) (raw : RawReport) : RawReport → Prop
  | mode (byte : UInt8) : Unseen quantizer raw (raw.withMode byte)
  | padding (byte : UInt8) : Unseen quantizer raw (raw.withPadding byte)
  | dpad (undirected : 8 < raw.dpadNumber) : Unseen quantizer raw raw.withDpadAtRest
  | stick (side : Side) (sample : StickSample)
      (octant : quantizer.quantize sample = quantizer.quantize ((Report.decode raw).stick side)) :
    Unseen quantizer raw (raw.withStick side sample)

theorem Unseen.observe {quantizer : Quantizer} {raw other : RawReport}
    (unseen : Unseen quantizer raw other) :
    (Report.decode other).observe quantizer = (Report.decode raw).observe quantizer := by
  cases unseen with
  | mode byte => simp [Report.observe, Report.decode, RawReport.withMode]
  | padding byte => simp [Report.observe, Report.decode, RawReport.withPadding]
  | stick side sample octant =>
    cases side with
    | left =>
      simp only [Report.decode, Report.stick, PerSide.get] at octant
      simp [Report.observe, Report.decode, RawReport.withStick, octant]
    | right =>
      simp only [Report.decode, Report.stick, PerSide.get] at octant
      simp [Report.observe, Report.decode, RawReport.withStick, octant]
  | dpad undirected =>
    have centered := Report.dpadOfByte_of_undirected raw.dpadByte undirected
    change Report.dpadOfByte raw[4] = _ at centered
    have buttons : ∀ index, (Report.restDpad raw.dpadByte).toNat.testBit (4 + index) =
        raw[4].toNat.testBit (4 + index) := Report.testBit_restDpad raw[4]
    simp [Report.observe, Report.decode, RawReport.withDpadAtRest, Report.dpadOfByte_restDpad,
      buttons, centered]

/-! ## Keys -/

namespace KeyFeed

variable {capacity : Nat} (quantizer : Quantizer) (keyMap : KeyMap)

theorem pushAll_append (queue : KeyQueue capacity) (first second : List KeyCode) :
    queue.pushAll (first ++ second) = (queue.pushAll first).pushAll second :=
  List.foldl_append

theorem receiveAll_fst (raws : List RawReport) (feed : KeyFeed capacity) :
    (feed.receiveAll quantizer keyMap raws).1 =
      (Observation.firedAlong ((feed.previous :: raws.map Report.decode).map
        (Report.observe quantizer))).map keyMap.key := by
  induction raws generalizing feed with
  | nil => rfl
  | cons raw rest ih =>
    simp only [receiveAll, ih, List.map_cons, Observation.firedAlong, List.map_append]
    rw [receive, Transition.keys_eq_map_fired]

theorem queue_receiveAll (raws : List RawReport) (feed : KeyFeed capacity) :
    (feed.receiveAll quantizer keyMap raws).2.queue =
      feed.queue.pushAll (feed.receiveAll quantizer keyMap raws).1 := by
  induction raws generalizing feed with
  | nil => rfl
  | cons raw rest ih =>
    simp only [receiveAll, ih, pushAll_append]
    rfl

structure Alike (queue : KeyQueue capacity) (ones others : List RawReport) : Prop where
  keys : (receiveAll quantizer keyMap ones { previous := .idle, queue }).1 =
    (receiveAll quantizer keyMap others { previous := .idle, queue }).1
  queues : (receiveAll quantizer keyMap ones { previous := .idle, queue }).2.queue =
    (receiveAll quantizer keyMap others { previous := .idle, queue }).2.queue

theorem alike_of_outline (queue : KeyQueue capacity) (ones others : List RawReport)
    (same : Observation.outline quantizer ones = Observation.outline quantizer others) :
    Alike quantizer keyMap queue ones others := by
  have keys : (receiveAll quantizer keyMap ones { previous := .idle, queue }).1 =
      (receiveAll quantizer keyMap others { previous := .idle, queue }).1 := by
    rw [receiveAll_fst, receiveAll_fst]
    change (Observation.firedAlong (Observation.sequence quantizer ones)).map keyMap.key =
      (Observation.firedAlong (Observation.sequence quantizer others)).map keyMap.key
    rw [← Observation.firedAlong_outline, ← Observation.firedAlong_outline, same]
  refine { keys, queues := ?_ }
  rw [queue_receiveAll, queue_receiveAll, keys]

/-- Sequences of the same outline bring the same keys and leave the same queue. In particular a
report may be changed where it is not seen, and a report may come twice. -/
theorem only_outline_matters (queue : KeyQueue capacity) :
    (∀ ones others, Observation.outline quantizer ones = Observation.outline quantizer others →
      Alike quantizer keyMap queue ones others) ∧
    (∀ before raw other after, Unseen quantizer raw other →
      Alike quantizer keyMap queue (before ++ raw :: after) (before ++ other :: after)) ∧
    ∀ before raw after,
      Alike quantizer keyMap queue (before ++ raw :: after) (before ++ raw :: raw :: after) := by
  refine ⟨alike_of_outline quantizer keyMap queue, ?_, ?_⟩
  · intro before raw other after unseen
    apply alike_of_outline
    simp only [Observation.outline, Observation.sequence, List.map_cons, List.map_append,
      unseen.observe]
  · intro before raw after
    apply alike_of_outline
    simp only [Observation.outline, Observation.sequence, List.map_cons, List.map_append]
    exact (Observation.destutter'_repeat _ _ _ _).symm

theorem held_button_brings_one_key :
    let rest : RawReport := #v[127, 127, 127, 127, 0x08, 0, 0, 0]
    let held : RawReport := #v[127, 127, 127, 127, 0x18, 0, 0, 0]
    let padded : RawReport := #v[127, 127, 127, 127, 0x18, 0, 0, 255]
    let keyMap := KeyMap.empty.write (.button 0) ⟨0x55⟩
    let queue : KeyQueue 1 := .empty .dropNewest
    Observation.outline {} [held, held, padded, rest] = Observation.outline {} [held, rest] ∧
      Alike {} keyMap queue [held, held, padded, rest] [held, rest] ∧
      Unseen {} held padded ∧ Alike {} keyMap queue [held, held, rest] [held, padded, rest] ∧
      (receiveAll {} keyMap [held, rest] { previous := .idle, queue }).1 = [⟨0x55⟩] := by
  intro rest held padded keyMap queue
  have same : Observation.outline {} [held, held, padded, rest] =
      Observation.outline {} [held, rest] := by decide +kernel
  have unseen : Unseen {} held padded := .padding 255
  obtain ⟨outlines, changes, -⟩ := only_outline_matters {} keyMap queue
  exact ⟨same, outlines _ _ same, unseen, changes [held] held padded [rest] unseen,
    by decide +kernel⟩

end KeyFeed

end Gamepad
