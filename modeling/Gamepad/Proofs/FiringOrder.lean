import Gamepad.Proofs.FiredControls
import Gamepad.Proofs.KeyCells
import Mathlib.Data.Option.Basic

/-!
Which controls fire between two reports, and in what order. A report shows some controls: the
buttons that are down and the directions of the dpad and of the sticks. Main statement: the keys of
a transition are those of the controls that are shown now and were not before, in the order of
their ranks, whatever the key map is.
-/

namespace Gamepad

namespace Control

/-- How many controls can come before in one transition. The dpad comes first, whatever its
direction, then the buttons of the pad, then the left and the right side. -/
def rank : Control → Nat
  | dpad _ => 0
  | button index => 1 + index
  | bumper side => ofSide side 0
  | trigger side => ofSide side 1
  | stick side _ => ofSide side 2
  | stickPress side => ofSide side 3
  | option side => ofSide side 4
where
  ofSide : Side → Nat → Nat
    | .left, place => 5 + place
    | .right, place => 10 + place

end Control

namespace Observation

/-- Whether a button is down, or the dpad or a stick stands in a direction. -/
def shows (observation : Observation) : Control → Bool
  | .dpad direction => observation.dpad = direction
  | .button index => observation.buttons[index]?.getD false
  | .bumper side => observation.bumpers.get side
  | .trigger side => observation.triggers.get side
  | .stick side direction => observation.sticks.get side = direction
  | .stickPress side => observation.stickPresses.get side
  | .option side => observation.options.get side

def appears (before after : Observation) (control : Control) : Bool :=
  !before.shows control && after.shows control

def candidatesOfSide (after : Observation) (side : Side) : List Control :=
  [.bumper side, .trigger side, .stick side (after.sticks.get side), .stickPress side, .option side]

/-- The controls of a pad, with only one direction of the dpad and of each stick. -/
def candidates (after : Observation) : List Control :=
  [.dpad after.dpad] ++ (List.range 4).map .button ++ Side.all.flatMap after.candidatesOfSide

theorem rank_candidates (observation : Observation) :
    observation.candidates.map Control.rank = List.range 15 := rfl

theorem onPad_of_shows (observation : Observation) (control : Control)
    (shown : observation.shows control = true) : control.OnPad := by
  cases control with
  | button index =>
    change index < 4
    by_contra outside
    have absent : observation.buttons[index]? = none :=
      Vector.getElem?_eq_none (Nat.not_lt.mp outside)
    simp [shows, absent] at shown
  | _ => trivial

theorem mem_candidates (observation : Observation) (control : Control)
    (shown : observation.shows control = true) : control ∈ observation.candidates := by
  have onPad := observation.onPad_of_shows control shown
  cases control with
  | dpad direction =>
    have same : observation.dpad = direction := by simpa [shows] using shown
    simp [candidates, same]
  | button index =>
    have inside : index < 4 := onPad
    simp [candidates, inside]
  | stick side direction =>
    have same : observation.sticks.get side = direction := by simpa [shows] using shown
    cases side <;> simp [candidates, candidatesOfSide, Side.all, same]
  | bumper side => cases side <;> simp [candidates, candidatesOfSide, Side.all]
  | trigger side => cases side <;> simp [candidates, candidatesOfSide, Side.all]
  | stickPress side => cases side <;> simp [candidates, candidatesOfSide, Side.all]
  | option side => cases side <;> simp [candidates, candidatesOfSide, Side.all]

variable (before after : Observation)

theorem controlIf_eq_filter (test : Control → Bool) (control : Control) :
    controlIf (test control) control = [control].filter test := by
  cases met : test control <;> simp [controlIf, met]

theorem firedDpad_eq_filter :
    controlIf (before.dpad ≠ after.dpad) (.dpad after.dpad) =
      [Control.dpad after.dpad].filter (before.appears after) := by
  have turned : decide (before.dpad ≠ after.dpad) = before.appears after (.dpad after.dpad) := by
    simp [appears, shows]
  rw [turned, controlIf_eq_filter]

theorem firedButtons_eq_filter :
    firedButtons before after =
      ((List.range 4).map Control.button).filter (before.appears after) := by
  rw [List.map_eq_flatMap, List.filter_flatMap]
  simp only [← controlIf_eq_filter]
  rfl

theorem firedOfSide_eq_filter (side : Side) :
    firedOfSide before after side =
      (after.candidatesOfSide side).filter (before.appears after) := by
  have turned : decide (before.sticks.get side ≠ after.sticks.get side) =
      before.appears after (.stick side (after.sticks.get side)) := by simp [appears, shows]
  have split : after.candidatesOfSide side = [.bumper side] ++ [.trigger side] ++
      [.stick side (after.sticks.get side)] ++ [.stickPress side] ++ [.option side] := rfl
  rw [firedOfSide, turned, split]
  simp only [List.filter_append, ← controlIf_eq_filter]
  rfl

theorem fired_eq_filter : before.fired after = after.candidates.filter (before.appears after) := by
  have sides : firedOfSide before after =
      fun side => (after.candidatesOfSide side).filter (before.appears after) :=
    funext (firedOfSide_eq_filter before after)
  rw [fired, firedDpad_eq_filter, firedButtons_eq_filter, sides, candidates, List.filter_append,
    List.filter_append, List.filter_flatMap]

theorem mem_fired_iff (control : Control) :
    control ∈ before.fired after ↔ before.shows control = false ∧ after.shows control = true := by
  rw [fired_eq_filter, List.mem_filter, appears, Bool.and_eq_true, Bool.not_eq_true']
  exact ⟨fun fires => fires.2, fun fires => ⟨after.mem_candidates control fires.2, fires⟩⟩

theorem onPad_of_mem_fired (control : Control) (fires : control ∈ before.fired after) :
    control.OnPad :=
  after.onPad_of_shows control ((before.mem_fired_iff after control).mp fires).2

theorem ranks_ascend : ((before.fired after).map Control.rank).Pairwise (· < ·) := by
  have all : (after.candidates.map Control.rank).Pairwise (· < ·) := by
    rw [rank_candidates]
    exact List.pairwise_lt_range
  rw [fired_eq_filter]
  exact all.sublist (List.filter_sublist.map _)

theorem length_fired_le : (before.fired after).length ≤ 15 := by
  have length := congrArg List.length after.rank_candidates
  rw [List.length_map, List.length_range] at length
  rw [fired_eq_filter, ← length]
  exact List.length_filter_le _ _

theorem nodup_fired : (before.fired after).Nodup := by
  have ranks : ((before.fired after).map Control.rank).Nodup :=
    (before.ranks_ascend after).imp Nat.ne_of_lt
  exact ranks.of_map

end Observation

def Report.shows (quantizer : Quantizer) (report : Report) : Control → Bool
  | .dpad direction => report.dpad = direction
  | .button index => report.button index
  | .bumper side => report.bumper side
  | .trigger side => report.trigger side
  | .stick side direction => quantizer.quantize (report.stick side) = direction
  | .stickPress side => report.stickPress side
  | .option side => report.option side

theorem Report.shows_observe (quantizer : Quantizer) (report : Report) (control : Control) :
    (report.observe quantizer).shows control = report.shows quantizer control := by
  cases control with
  | stick side direction =>
    rw [Observation.shows, stick_observe]
    rfl
  | _ => rfl

namespace Transition

variable (quantizer : Quantizer) (previous current : Report)

def firedControls : List Control := (previous.observe quantizer).fired (current.observe quantizer)

theorem mem_firedControls_iff (control : Control) :
    control ∈ firedControls quantizer previous current ↔
      previous.shows quantizer control = false ∧ current.shows quantizer control = true := by
  rw [firedControls, Observation.mem_fired_iff, Report.shows_observe, Report.shows_observe]

theorem onPad_of_mem_firedControls (control : Control)
    (fires : control ∈ firedControls quantizer previous current) : control.OnPad :=
  Observation.onPad_of_mem_fired _ _ control fires

theorem keys_eq_map_firedControls (keyMap : KeyMap) :
    keys quantizer keyMap previous current =
      (firedControls quantizer previous current).map keyMap.key :=
  keys_eq_map_fired quantizer keyMap previous current

theorem map_some_keys (keyMap : KeyMap) :
    (keys quantizer keyMap previous current).map some =
      (firedControls quantizer previous current).map keyMap.get? := by
  rw [keys_eq_map_firedControls, keyMap.map_get?_of_onPad]
  exact onPad_of_mem_firedControls quantizer previous current

/-- No other list of controls gives these keys under every key map. A key map in which every cell
has a code of its own is enough to tell. -/
theorem eq_firedControls (others : List Control)
    (same : ∀ keyMap : KeyMap,
      (keys quantizer keyMap previous current).map some = others.map keyMap.get?) :
    others = firedControls quantizer previous current := by
  have cells := same .numbered
  have onPad : ∀ control ∈ others, control.OnPad := by
    intro control member
    have held : KeyMap.numbered.get? control ∈
        (keys quantizer .numbered previous current).map some :=
      cells ▸ List.mem_map_of_mem member
    obtain ⟨key, _, holds⟩ := List.mem_map.mp held
    exact KeyMap.onPad_of_get? .numbered holds.symm
  rw [KeyMap.map_get?_of_onPad _ others onPad, keys_eq_map_firedControls] at cells
  have keys := (List.map_injective_iff.mpr (Option.some_injective KeyCode)) cells
  exact KeyMap.distinct_numbered.map_key_inj onPad
    (onPad_of_mem_firedControls quantizer previous current) keys.symm

theorem getElem?_keys_write (keyMap : KeyMap) (control : Control) (onPad : control.OnPad)
    (key : KeyCode) (position : Nat) :
    (keys quantizer (keyMap.write control key) previous current)[position]? =
      if (firedControls quantizer previous current)[position]? = some control then some key
      else (keys quantizer keyMap previous current)[position]? := by
  rw [keys_eq_map_firedControls, keys_eq_map_firedControls, List.getElem?_map, List.getElem?_map]
  cases (firedControls quantizer previous current)[position]? with
  | none => rfl
  | some fired =>
    simp only [Option.map_some, keyMap.key_write control fired onPad, Option.some.injEq,
      eq_comm (a := fired)]
    split <;> rfl

theorem keys_self (keyMap : KeyMap) : keys quantizer keyMap current current = [] := by
  rw [keys_eq_map_firedControls, firedControls, Observation.fired_self]
  rfl

/-- One list of controls, and no other, gives the keys of a transition under every key map. It
holds the controls that are shown now and were not before, in the order of their ranks, of which a
pad has fifteen. So a control fires once at most, to bind another key to it changes the keys at its
place alone, and a report after itself brings no key. -/
theorem keys_in_order :
    (∀ control ∈ Control.cells, control.rank < 15) ∧
    (∀ keyMap : KeyMap, (keys quantizer keyMap previous current).map some =
      (firedControls quantizer previous current).map keyMap.get?) ∧
    (∀ others : List Control, (∀ keyMap : KeyMap,
        (keys quantizer keyMap previous current).map some = others.map keyMap.get?) →
      others = firedControls quantizer previous current) ∧
    ((firedControls quantizer previous current).map Control.rank).Pairwise (· < ·) ∧
    (firedControls quantizer previous current).Nodup ∧
    (∀ keyMap, (keys quantizer keyMap previous current).length ≤ 15) ∧
    (∀ control, control ∈ firedControls quantizer previous current ↔
      previous.shows quantizer control = false ∧ current.shows quantizer control = true) ∧
    (∀ (keyMap written : KeyMap) (control : Control) (key held : KeyCode),
      keyMap.set control key = .ok (held, written) → ∀ position : Nat,
        (keys quantizer written previous current)[position]? =
          if (firedControls quantizer previous current)[position]? = some control then some key
          else (keys quantizer keyMap previous current)[position]?) ∧
    ∀ keyMap, keys quantizer keyMap current current = [] := by
  refine ⟨by decide, map_some_keys quantizer previous current,
    eq_firedControls quantizer previous current, Observation.ranks_ascend _ _,
    Observation.nodup_fired _ _, ?_, mem_firedControls_iff quantizer previous current, ?_,
    keys_self quantizer current⟩
  · intro keyMap
    rw [keys_eq_map_firedControls, List.length_map]
    exact Observation.length_fired_le _ _
  · intro keyMap written control key held done position
    obtain ⟨onPad, same⟩ := keyMap.set_eq_ok done
    rw [same]
    exact getElem?_keys_write quantizer previous current keyMap control onPad key position

theorem keys_of_turn_and_press :
    let current := (Report.idle.withButton 2 true).withDpad .left
    firedControls {} .idle current = [.dpad .left, .button 2] ∧
      ∃ written, KeyMap.numbered.set (.button 2) ⟨99⟩ = .ok (⟨12⟩, written) ∧
        (keys {} written .idle current)[1]? = some ⟨99⟩ ∧
        (keys {} written .idle current)[0]? = (keys {} .numbered .idle current)[0]? := by
  intro current
  have fired : firedControls {} .idle current = [.dpad .left, .button 2] := by decide +kernel
  have written : KeyMap.numbered.set (.button 2) ⟨99⟩ =
      .ok (⟨12⟩, KeyMap.numbered.write (.button 2) ⟨99⟩) := rfl
  obtain ⟨-, -, -, -, -, -, -, changes, -⟩ := keys_in_order {} .idle current
  refine ⟨fired, _, written, ?_, ?_⟩
  · rw [changes _ _ _ _ _ written, fired]
    rfl
  · rw [changes _ _ _ _ _ written, fired]
    rfl

end Transition

end Gamepad
