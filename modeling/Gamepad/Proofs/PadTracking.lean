import Gamepad.Proofs.FiringOrder
import Gamepad.Proofs.SilentReports

/-!
What the keys of a sequence of reports tell of the pad, where every control has a key of its own.
Main statement: the directions that the keys name follow the dpad and the sticks, each turn once
and the last of them the present one, and the keys of a button count how often it went down.
-/

namespace Gamepad

inductive Pointer
  | dpad
  | stick (side : Side)
deriving DecidableEq, Repr

def Pointer.control : Pointer → Direction → Control
  | dpad => .dpad
  | stick side => .stick side

def Report.pointing (quantizer : Quantizer) (report : Report) : Pointer → Direction
  | .dpad => report.dpad
  | .stick side => quantizer.quantize (report.stick side)

def KeyMap.directionOf? (keyMap : KeyMap) (pointer : Pointer) (key : KeyCode) : Option Direction :=
  Direction.all.find? fun direction => keyMap.key (pointer.control direction) = key

theorem Pointer.onPad_control (pointer : Pointer) (direction : Direction) :
    (pointer.control direction).OnPad := by
  cases pointer <;> trivial

theorem Pointer.control_inj (pointer : Pointer) {first second : Direction}
    (same : pointer.control first = pointer.control second) : first = second := by
  cases pointer with
  | dpad => exact Control.dpad.inj same
  | stick side => exact (Control.stick.inj same).2

theorem Report.shows_pointer (quantizer : Quantizer) (report : Report) (pointer : Pointer)
    (direction : Direction) :
    report.shows quantizer (pointer.control direction) =
      decide (report.pointing quantizer pointer = direction) := by
  cases pointer <;> rfl

theorem KeyMap.Distinct.directionOf?_key {keyMap : KeyMap} (distinct : keyMap.Distinct)
    (pointer : Pointer) {control : Control} (onPad : control.OnPad) (direction : Direction) :
    keyMap.directionOf? pointer (keyMap.key control) = some direction ↔
      control = pointer.control direction := by
  have named : ∀ other, keyMap.directionOf? pointer (keyMap.key control) = some other →
      control = pointer.control other := by
    intro other found
    have same := List.find?_some found
    exact ((distinct.key_inj (pointer.onPad_control other) onPad).mp
      (of_decide_eq_true same)).symm
  refine ⟨named direction, fun same => ?_⟩
  cases found : keyMap.directionOf? pointer (keyMap.key control) with
  | none =>
    have absent := List.find?_eq_none.mp found direction (Direction.mem_all direction)
    exact absurd (decide_eq_true (congrArg keyMap.key same.symm)) absent
  | some other => rw [pointer.control_inj ((named other found).symm.trans same)]

namespace Transition

def appears (quantizer : Quantizer) (control : Control) (step : Report × Report) : Bool :=
  !step.1.shows quantizer control && step.2.shows quantizer control

variable {quantizer : Quantizer} {keyMap : KeyMap} (previous current : Report)

theorem nodup_keys (distinct : keyMap.Distinct) :
    (keys quantizer keyMap previous current).Nodup := by
  rw [keys_eq_map_firedControls]
  refine List.Nodup.map_on ?_ (Observation.nodup_fired _ _)
  intro first firstFires second secondFires same
  exact (distinct.key_inj (onPad_of_mem_firedControls _ _ _ _ firstFires)
    (onPad_of_mem_firedControls _ _ _ _ secondFires)).mp same

theorem key_mem_keys_iff (distinct : keyMap.Distinct) {control : Control} (onPad : control.OnPad) :
    keyMap.key control ∈ keys quantizer keyMap previous current ↔
      previous.shows quantizer control = false ∧ current.shows quantizer control = true := by
  rw [keys_eq_map_firedControls, List.mem_map, ← mem_firedControls_iff]
  constructor
  · rintro ⟨fired, fires, same⟩
    have onPadFired := onPad_of_mem_firedControls _ _ _ _ fires
    exact (distinct.key_inj onPadFired onPad).mp same ▸ fires
  · exact fun fires => ⟨control, fires, rfl⟩

theorem count_key_keys (distinct : keyMap.Distinct) {control : Control} (onPad : control.OnPad) :
    (keys quantizer keyMap previous current).count (keyMap.key control) =
      if appears quantizer control (previous, current) then 1 else 0 := by
  unfold appears
  simp only [(nodup_keys previous current distinct).count,
    key_mem_keys_iff previous current distinct onPad]
  cases previous.shows quantizer control <;> cases current.shows quantizer control <;> rfl

theorem filterMap_eq_replicate {α β : Type} [DecidableEq α] (select : α → Option β) (chosen : α)
    (value : β) (items : List α)
    (only : ∀ item ∈ items, select item = if item = chosen then some value else none) :
    items.filterMap select = List.replicate (items.count chosen) value := by
  induction items with
  | nil => rfl
  | cons item rest ih =>
    rw [List.forall_mem_cons] at only
    by_cases same : item = chosen
    · rw [List.filterMap_cons_some (only.1.trans (if_pos same)), ih only.2, same,
        List.count_cons_self, List.replicate_succ]
    · rw [List.filterMap_cons_none (only.1.trans (if_neg same)), ih only.2,
        List.count_cons_of_ne same]

theorem directionOf?_of_mem_keys (distinct : keyMap.Distinct) (pointer : Pointer) (key : KeyCode)
    (member : key ∈ keys quantizer keyMap previous current) :
    keyMap.directionOf? pointer key =
      if key = keyMap.key (pointer.control (current.pointing quantizer pointer)) then
        some (current.pointing quantizer pointer)
      else none := by
  rw [keys_eq_map_firedControls] at member
  obtain ⟨control, fires, rfl⟩ := List.mem_map.mp member
  have onPad := onPad_of_mem_firedControls _ _ _ _ fires
  split
  next same =>
    rw [distinct.directionOf?_key pointer onPad]
    exact (distinct.key_inj onPad (pointer.onPad_control _)).mp same
  next other =>
    by_contra named
    obtain ⟨direction, found⟩ := Option.ne_none_iff_exists'.mp named
    have turned := (distinct.directionOf?_key pointer onPad direction).mp found
    have shown := ((mem_firedControls_iff quantizer previous current control).mp fires).2
    rw [turned, Report.shows_pointer, decide_eq_true_eq] at shown
    exact other (by rw [turned, shown])

/-- The keys of a part name its new direction, if it has turned, and nothing else. -/
theorem filterMap_directionOf?_keys (distinct : keyMap.Distinct) (pointer : Pointer) :
    (keys quantizer keyMap previous current).filterMap (keyMap.directionOf? pointer) =
      if previous.pointing quantizer pointer = current.pointing quantizer pointer then []
      else [current.pointing quantizer pointer] := by
  have counted : (keys quantizer keyMap previous current).count
      (keyMap.key (pointer.control (current.pointing quantizer pointer))) = _ :=
    count_key_keys previous current distinct (pointer.onPad_control _)
  rw [filterMap_eq_replicate _ _ _ _ (directionOf?_of_mem_keys previous current distinct pointer),
    counted, appears, Report.shows_pointer, Report.shows_pointer]
  by_cases same : previous.pointing quantizer pointer = current.pointing quantizer pointer
  · simp [same]
  · simp [same]

end Transition

/-- What names make of a sequence of directions: each differs from the one before, and the last is
the last direction of the sequence. Both start from the same direction. -/
structure Tracks (start : Direction) (directions named : List Direction) : Prop where
  turns : (start :: named).IsChain (· ≠ ·)
  last : (start :: named).getLast? = (start :: directions).getLast?
  quiet : named = [] → ∀ direction ∈ directions, direction = start

namespace Tracks

variable {start next : Direction} {directions named : List Direction}

theorem nil (start : Direction) : Tracks start [] [] where
  turns := .singleton start
  last := rfl
  quiet := fun _ _ absent => nomatch absent

theorem same (tracks : Tracks start directions named) :
    Tracks start (start :: directions) named where
  turns := tracks.turns
  last := tracks.last.trans List.getLast?_cons_cons.symm
  quiet := fun none => List.forall_mem_cons.mpr ⟨rfl, tracks.quiet none⟩

theorem turned (tracks : Tracks next directions named) (other : start ≠ next) :
    Tracks start (next :: directions) (next :: named) where
  turns := List.isChain_cons_cons.mpr ⟨other, tracks.turns⟩
  last := by rw [List.getLast?_cons_cons, List.getLast?_cons_cons, tracks.last]
  quiet := fun none => nomatch none

end Tracks

namespace Transition

variable (quantizer : Quantizer) (keyMap : KeyMap)

def steps (previous : Report) (reports : List Report) : List (Report × Report) :=
  (previous :: reports).zip reports

def keysAlong (previous : Report) (reports : List Report) : List KeyCode :=
  (steps previous reports).flatMap fun (before, after) => keys quantizer keyMap before after

theorem keysAlong_cons (previous current : Report) (rest : List Report) :
    keysAlong quantizer keyMap previous (current :: rest) =
      keys quantizer keyMap previous current ++ keysAlong quantizer keyMap current rest := rfl

theorem tracks_keysAlong (distinct : keyMap.Distinct) (pointer : Pointer) (previous : Report)
    (reports : List Report) :
    Tracks (previous.pointing quantizer pointer)
      (reports.map fun report => report.pointing quantizer pointer)
      ((keysAlong quantizer keyMap previous reports).filterMap (keyMap.directionOf? pointer)) := by
  induction reports generalizing previous with
  | nil => exact .nil _
  | cons current rest ih =>
    rw [keysAlong_cons, List.filterMap_append, filterMap_directionOf?_keys _ _ distinct,
      List.map_cons]
    split
    next same =>
      rw [same]
      exact (ih current).same
    next other => exact (ih current).turned other

theorem count_keysAlong (distinct : keyMap.Distinct) (control : Control) (onPad : control.OnPad)
    (previous : Report) (reports : List Report) :
    (keysAlong quantizer keyMap previous reports).count (keyMap.key control) =
      (steps previous reports).countP (appears quantizer control) := by
  induction reports generalizing previous with
  | nil => rfl
  | cons current rest ih =>
    have first : steps previous (current :: rest) = (previous, current) :: steps current rest := rfl
    rw [keysAlong_cons, List.count_append, count_key_keys _ _ distinct onPad, ih, first,
      List.countP_cons, Nat.add_comm]

end Transition

namespace KeyFeed

variable {capacity : Nat} (quantizer : Quantizer) (keyMap : KeyMap)

theorem receiveAll_eq_keysAlong (raws : List RawReport) (feed : KeyFeed capacity) :
    (feed.receiveAll quantizer keyMap raws).1 =
      Transition.keysAlong quantizer keyMap feed.previous (raws.map Report.decode) := by
  induction raws generalizing feed with
  | nil => rfl
  | cons raw rest ih =>
    rw [List.map_cons, Transition.keysAlong_cons]
    change (feed.receive quantizer keyMap (.decode raw)).1 ++ _ = _
    rw [ih]
    rfl

/-- Where every control has a key of its own, the keys of any reports after a pad at rest track the
pad. The directions that they name follow the dpad and each stick, and the key of a control comes
as often as the control appears: that of a button once each time it goes down and never with a
report in which it is up. -/
theorem keys_track_pad (distinct : keyMap.Distinct) (queue : KeyQueue capacity)
    (raws : List RawReport) :
    let reports := raws.map Report.decode
    let steps := Transition.steps .idle reports
    let output := (receiveAll quantizer keyMap raws { previous := .idle, queue }).1
    (∀ pointer, Tracks (Report.idle.pointing quantizer pointer)
      (reports.map fun report => report.pointing quantizer pointer)
      (output.filterMap (keyMap.directionOf? pointer))) ∧
    (∀ control, control.OnPad → output.count (keyMap.key control) =
      steps.countP (Transition.appears quantizer control)) ∧
    output = steps.flatMap (fun (before, after) => Transition.keys quantizer keyMap before after) ∧
    ∀ control, control.OnPad → ∀ before after, (before, after) ∈ steps →
      after.shows quantizer control = false →
      keyMap.key control ∉ Transition.keys quantizer keyMap before after := by
  intro reports steps output
  have along : output = Transition.keysAlong quantizer keyMap .idle reports :=
    receiveAll_eq_keysAlong quantizer keyMap raws _
  refine ⟨?_, ?_, along, ?_⟩
  · intro pointer
    rw [along]
    exact Transition.tracks_keysAlong quantizer keyMap distinct pointer .idle reports
  · intro control onPad
    rw [along]
    exact Transition.count_keysAlong quantizer keyMap distinct control onPad .idle reports
  · intro control onPad before after _ up comes
    have down := ((Transition.key_mem_keys_iff before after distinct onPad).mp comes).2
    exact Bool.false_ne_true (up.symm.trans down)

theorem keys_track_second_press :
    let held : RawReport := #v[127, 127, 127, 127, 0x18, 0, 0, 0]
    let turned : RawReport := #v[127, 0, 127, 127, 0x18, 0, 0, 0]
    let rest : RawReport := #v[127, 127, 127, 127, 0x08, 0, 0, 0]
    let queue : KeyQueue 32 := .empty .dropOldest
    let output := (receiveAll {} .numbered [held, turned, rest, held] { previous := .idle, queue }).1
    KeyMap.numbered.Distinct ∧ output.count (KeyMap.numbered.key (.button 0)) = 2 ∧
      Tracks .centered [.centered, .up, .centered, .centered]
        (output.filterMap (KeyMap.numbered.directionOf? (.stick .left))) := by
  intro held turned rest queue output
  obtain ⟨tracked, counted, -⟩ := keys_track_pad {} .numbered KeyMap.distinct_numbered queue
    [held, turned, rest, held]
  refine ⟨KeyMap.distinct_numbered, ?_, ?_⟩
  · have onPad : (Control.button 0).OnPad := Nat.zero_lt_succ 3
    rw [counted (.button 0) onPad]
    decide +kernel
  · have start : Report.idle.pointing {} (.stick .left) = .centered := by decide
    have directions : ([held, turned, rest, held].map Report.decode).map
        (fun report => report.pointing {} (.stick .left)) =
          [.centered, .up, .centered, .centered] := by decide +kernel
    have stick := tracked (.stick .left)
    rw [start, directions] at stick
    exact stick

end KeyFeed

end Gamepad
