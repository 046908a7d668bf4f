import Gamepad.Proofs.ConfiguredBindings
import Mathlib.Data.List.Nodup

/-!
The cells of a key map. A pad has 39 controls, each with a cell of its own, and one cell can be
written without a change in any other. Main statements: what a written cell and the others hold
afterwards, and that there is a key map in which no two cells hold the same key.
-/

namespace Gamepad

namespace Control

def ofSide (side : Side) : List Control :=
  [bumper side, trigger side] ++ Direction.all.map (stick side) ++ [stickPress side, option side]

def cells : List Control :=
  Direction.all.map dpad ++ (List.range 4).map button ++ Side.all.flatMap ofSide

theorem mem_cells_iff (control : Control) : control ∈ cells ↔ control.OnPad := by
  cases control with
  | button index => simp [cells, ofSide, Side.all, OnPad]
  | dpad direction => simp [cells, OnPad, Direction.mem_all]
  | bumper side => cases side <;> simp [cells, ofSide, Side.all, OnPad]
  | trigger side => cases side <;> simp [cells, ofSide, Side.all, OnPad]
  | stick side direction =>
    cases side <;> simp [cells, ofSide, Side.all, OnPad, Direction.mem_all]
  | stickPress side => cases side <;> simp [cells, ofSide, Side.all, OnPad]
  | option side => cases side <;> simp [cells, ofSide, Side.all, OnPad]

end Control

theorem Direction.index_inj {first second : Direction} :
    first.index.val = second.index.val ↔ first = second := by
  constructor
  · intro same
    have found := Direction.ofIndex?_index first
    rw [same, Direction.ofIndex?_index second] at found
    exact (Option.some.inj found).symm
  · exact fun same => congrArg (fun direction => direction.index.val) same

namespace KeyMap

variable (keyMap : KeyMap)

theorem read_eq_ok_key (control : Control) (onPad : control.OnPad) :
    keyMap.read control = .ok (keyMap.key control) := by
  cases control with
  | button index =>
    have inside : index < 4 := onPad
    simp [read, key, buttonKey, inside]
  | dpad direction => rfl
  | bumper side => rfl
  | trigger side => rfl
  | stick side direction => rfl
  | stickPress side => rfl
  | option side => rfl

theorem get?_of_onPad (control : Control) (onPad : control.OnPad) :
    keyMap.get? control = some (keyMap.key control) := by
  rw [get?, read_eq_ok_key keyMap control onPad]
  rfl

theorem map_get?_of_onPad (controls : List Control)
    (onPad : ∀ control ∈ controls, control.OnPad) :
    controls.map keyMap.get? = (controls.map keyMap.key).map some := by
  rw [List.map_map]
  exact List.map_congr_left fun control member => keyMap.get?_of_onPad control (onPad control member)

theorem onPad_of_get? {control : Control} {key : KeyCode} (held : keyMap.get? control = some key) :
    control.OnPad := by
  cases control with
  | button index =>
    by_contra outside
    have absent : keyMap.buttons[index]? = none :=
      Vector.getElem?_eq_none (Nat.not_lt.mp outside)
    simp [get?, read, absent, Except.toOption] at held
  | dpad direction => trivial
  | bumper side => trivial
  | trigger side => trivial
  | stick side direction => trivial
  | stickPress side => trivial
  | option side => trivial

theorem get_set_direction (cells : Vector KeyCode 9) (direction other : Direction) (key : KeyCode) :
    (cells.set direction.index key direction.index.isLt).get other.index =
      if direction = other then key else cells.get other.index := by
  change (cells.set direction.index key direction.index.isLt)[other.index.val] =
    if direction = other then key else cells[other.index.val]
  simp only [Vector.getElem_set, Direction.index_inj]

theorem key_write (control other : Control) (onPad : control.OnPad) (key : KeyCode) :
    (keyMap.write control key).key other =
      if control = other then key else keyMap.key other := by
  cases control with
  | dpad direction =>
    cases other <;> simp [KeyMap.key, write, dpadKey, get_set_direction] <;> rfl
  | button index =>
    have inside : index < 4 := onPad
    cases other with
    | button second =>
      simp only [KeyMap.key, write, buttonKey, Vector.getElem?_setIfInBounds, Control.button.injEq]
      split <;> simp [*]
    | _ =>
      simp [KeyMap.key, write]
      rfl
  | bumper side => cases other <;> simp [KeyMap.key, write, bumperKey, PerSide.get_set] <;> rfl
  | trigger side => cases other <;> simp [KeyMap.key, write, triggerKey, PerSide.get_set] <;> rfl
  | stick side direction =>
    cases other with
    | stick second turned =>
      simp only [KeyMap.key, write, stickKey, PerSide.get_set, Control.stick.injEq]
      by_cases same : side = second
      · subst same
        simp [get_set_direction]
      · simp [same]
    | _ =>
      simp [KeyMap.key, write]
      rfl
  | stickPress side =>
    cases other <;> simp [KeyMap.key, write, stickPressKey, PerSide.get_set] <;> rfl
  | option side => cases other <;> simp [KeyMap.key, write, optionKey, PerSide.get_set] <;> rfl

theorem set_eq_ok {control : Control} {key previous : KeyCode} {written : KeyMap}
    (done : keyMap.set control key = .ok (previous, written)) :
    control.OnPad ∧ written = keyMap.write control key := by
  cases held : keyMap.read control with
  | error error =>
    rw [set, held] at done
    cases done
  | ok found =>
    rw [set, held] at done
    cases done
    have present : keyMap.get? control = some previous := by
      rw [get?, held]
      rfl
    exact ⟨keyMap.onPad_of_get? present, rfl⟩

/-- Every control of the pad has a key of its own, so a key tells its control. -/
def Distinct : Prop := (Control.cells.map keyMap.key).Nodup

instance : Decidable keyMap.Distinct := inferInstanceAs (Decidable (List.Nodup _))

theorem Distinct.key_inj {keyMap : KeyMap} (distinct : keyMap.Distinct) {first second : Control}
    (firstOnPad : first.OnPad) (secondOnPad : second.OnPad) :
    keyMap.key first = keyMap.key second ↔ first = second := by
  refine ⟨fun same => ?_, fun same => congrArg keyMap.key same⟩
  exact List.inj_on_of_nodup_map distinct ((Control.mem_cells_iff first).mpr firstOnPad)
    ((Control.mem_cells_iff second).mpr secondOnPad) same

theorem Distinct.map_key_inj {keyMap : KeyMap} (distinct : keyMap.Distinct)
    {ones others : List Control} (onesOnPad : ∀ control ∈ ones, control.OnPad)
    (othersOnPad : ∀ control ∈ others, control.OnPad)
    (same : ones.map keyMap.key = others.map keyMap.key) : ones = others := by
  induction ones generalizing others with
  | nil => exact (List.map_eq_nil_iff.mp same.symm).symm
  | cons one ones ih =>
    cases others with
    | nil => cases same
    | cons other others =>
      obtain ⟨first, rest⟩ := List.cons.inj same
      rw [List.forall_mem_cons] at onesOnPad othersOnPad
      rw [(distinct.key_inj onesOnPad.1 othersOnPad.1).mp first,
        ih onesOnPad.2 othersOnPad.2 rest]

def numbered : KeyMap :=
  Control.cells.zipIdx.foldl
    (fun keyMap (control, position) => keyMap.write control ⟨.ofNat (position + 1)⟩) empty

theorem distinct_numbered : numbered.Distinct := by decide +kernel

end KeyMap

end Gamepad
