import Gamepad.Proofs.BindingRuns
import Gamepad.Proofs.PackedReports

/-!
The fields of a report, each of which has one call that writes it and one that reads it. Main
statement: a call changes what it writes and nothing else, with the switches packed into masks as
well as one by one, and a report is what its fields and its last two bytes are.
-/

namespace Gamepad

inductive ReportField
  | stick (side : Side)
  | dpad
  | button (index : Nat)
  | bumper (side : Side)
  | trigger (side : Side)
  | option (side : Side)
  | stickPress (side : Side)
deriving DecidableEq, Repr

namespace ReportField

abbrev Value : ReportField → Type
  | stick _ => StickSample
  | dpad => Direction
  | button _ => Bool
  | bumper _ => Bool
  | trigger _ => Bool
  | option _ => Bool
  | stickPress _ => Bool

def write : (field : ReportField) → field.Value → ReportEdit
  | stick side, sample => .stick side sample
  | dpad, direction => .dpad direction
  | button index, pressed => .button index pressed
  | bumper side, pressed => .bumper side pressed
  | trigger side, pressed => .trigger side pressed
  | option side, pressed => .option side pressed
  | stickPress side, pressed => .stickPress side pressed

/-- What is left of a value that is written: a button that the pad does not have stays released. -/
def kept : (field : ReportField) → field.Value → field.Value
  | stick _, sample => sample
  | dpad, direction => direction
  | button index, pressed => decide (index < 4) && pressed
  | bumper _, pressed => pressed
  | trigger _, pressed => pressed
  | option _, pressed => pressed
  | stickPress _, pressed => pressed

def onPad : List ReportField :=
  dpad :: (List.range 4).map button ++
    Side.all.flatMap fun side => [stick side, bumper side, trigger side, option side, stickPress side]

theorem mem_onPad_or_button (field : ReportField) :
    field ∈ onPad ∨ ∃ index, 4 ≤ index ∧ field = button index := by
  have sides (side : Side) : side ∈ Side.all := by cases side <;> decide
  cases field with
  | button index =>
    by_cases inside : index < 4
    · left
      simp [onPad, inside]
    · right
      exact ⟨index, by omega, rfl⟩
  | _ =>
    left
    simp [onPad, sides]

theorem kept_of_mem {field : ReportField} (member : field ∈ onPad) (value : field.Value) :
    field.kept value = value := by
  cases field with
  | button index =>
    have inside : index < 4 := by simpa [onPad] using member
    simp [kept, inside]
  | _ => rfl

end ReportField

/-- A way to hold reports: those that can be built, how a call changes one, and what can be seen of
it. -/
structure ReportForm (ρ : Type) where
  Built : ρ → Prop
  edit : ρ → ReportEdit → ρ
  read : ρ → (field : ReportField) → field.Value
  mode : ρ → UInt8
  encode : ρ → RawReport

namespace ReportForm

variable {ρ : Type}

def tail (form : ReportForm ρ) (report : ρ) : UInt8 × UInt8 :=
  ((form.encode report).byte 6, (form.encode report).byte 7)

/-- A call changes what it writes and nothing else. -/
structure Lawful (form : ReportForm ρ) : Prop where
  built_edit : ∀ {report}, form.Built report → ∀ edit, form.Built (form.edit report edit)
  read_write : ∀ {report}, form.Built report → ∀ (field : ReportField) value,
    form.read (form.edit report (field.write value)) field = field.kept value
  read_write_of_ne : ∀ {report}, form.Built report → ∀ {field other : ReportField} value,
    field ≠ other →
    form.read (form.edit report (field.write value)) other = form.read report other
  edit_offPad : ∀ {report}, form.Built report → ∀ {index}, 4 ≤ index → ∀ pressed,
    form.edit report (.button index pressed) = report
  tail_edit : ∀ {report}, form.Built report → ∀ edit,
    form.tail (form.edit report edit) = form.tail report
  mode_eq : ∀ {report}, form.Built report → form.mode report = (form.tail report).1
  ext : ∀ {report other}, form.Built report → form.Built other →
    (∀ field, form.read report field = form.read other field) →
    form.tail report = form.tail other → report = other

/-- Fields are independent of each other: of two calls only the last one for a field counts and the
order of two fields does not matter, a report is what can be seen of it, and calls reach every
report that has the same mode and padding. -/
structure Independent (form : ReportForm ρ) : Prop extends form.Lawful where
  mode_edit : ∀ {report}, form.Built report → ∀ edit,
    form.mode (form.edit report edit) = form.mode report
  write_write : ∀ {report}, form.Built report → ∀ (field : ReportField) first last,
    form.edit (form.edit report (field.write first)) (field.write last) =
      form.edit report (field.write last)
  write_comm : ∀ {report}, form.Built report → ∀ {field other : ReportField} value otherValue,
    field ≠ other →
    form.edit (form.edit report (field.write value)) (other.write otherValue) =
      form.edit (form.edit report (other.write otherValue)) (field.write value)
  eq_iff : ∀ {report other}, form.Built report → form.Built other →
    (report = other ↔ (∀ field, form.read report field = form.read other field) ∧
      form.mode report = form.mode other ∧ form.tail report = form.tail other)
  reached : ∀ {report other}, form.Built report → form.Built other →
    form.tail report = form.tail other →
    ∃ edits : List ReportEdit, edits.foldl form.edit report = other

/-! ## From one call to many -/

variable {form : ReportForm ρ} (lawful : form.Lawful)
include lawful

namespace Lawful

theorem built_foldl (edits : List ReportEdit) {report : ρ} (built : form.Built report) :
    form.Built (edits.foldl form.edit report) := by
  induction edits generalizing report with
  | nil => exact built
  | cons edit rest ih => exact ih (lawful.built_edit built edit)

theorem tail_foldl (edits : List ReportEdit) {report : ρ} (built : form.Built report) :
    form.tail (edits.foldl form.edit report) = form.tail report := by
  induction edits generalizing report with
  | nil => rfl
  | cons edit rest ih =>
    exact (ih (lawful.built_edit built edit)).trans (lawful.tail_edit built edit)

theorem foldl_eq_of_read {report : ρ} (built : form.Built report) (edits others : List ReportEdit)
    (same : ∀ field, form.read (edits.foldl form.edit report) field =
      form.read (others.foldl form.edit report) field) :
    edits.foldl form.edit report = others.foldl form.edit report := by
  apply lawful.ext (lawful.built_foldl edits built) (lawful.built_foldl others built) same
  rw [lawful.tail_foldl edits built, lawful.tail_foldl others built]

theorem write_write {report : ρ} (built : form.Built report) (field : ReportField)
    (first last : field.Value) :
    form.edit (form.edit report (field.write first)) (field.write last) =
      form.edit report (field.write last) := by
  apply lawful.foldl_eq_of_read built [field.write first, field.write last] [field.write last]
  intro seen
  have once := lawful.built_edit built (field.write first)
  change form.read (form.edit (form.edit report (field.write first)) (field.write last)) seen =
    form.read (form.edit report (field.write last)) seen
  by_cases here : field = seen
  · subst here
    rw [lawful.read_write once, lawful.read_write built]
  · rw [lawful.read_write_of_ne once _ here, lawful.read_write_of_ne built _ here,
      lawful.read_write_of_ne built _ here]

theorem write_comm {report : ρ} (built : form.Built report) {field other : ReportField}
    (value : field.Value) (otherValue : other.Value) (different : field ≠ other) :
    form.edit (form.edit report (field.write value)) (other.write otherValue) =
      form.edit (form.edit report (other.write otherValue)) (field.write value) := by
  apply lawful.foldl_eq_of_read built [field.write value, other.write otherValue]
    [other.write otherValue, field.write value]
  intro seen
  have first := lawful.built_edit built (field.write value)
  have second := lawful.built_edit built (other.write otherValue)
  change form.read (form.edit (form.edit report (field.write value)) (other.write otherValue)) seen =
    form.read (form.edit (form.edit report (other.write otherValue)) (field.write value)) seen
  by_cases here : field = seen
  · subst here
    rw [lawful.read_write_of_ne first _ different.symm, lawful.read_write built,
      lawful.read_write second]
  · rw [lawful.read_write_of_ne second _ here]
    by_cases there : other = seen
    · subst there
      rw [lawful.read_write first, lawful.read_write built]
    · rw [lawful.read_write_of_ne first _ there, lawful.read_write_of_ne built _ there,
        lawful.read_write_of_ne built _ here]

theorem read_absent {report : ρ} (built : form.Built report) {index : Nat} (absent : 4 ≤ index) :
    form.read report (.button index) = false := by
  have written := lawful.read_write built (.button index) false
  have unchanged := lawful.edit_offPad built absent false
  have released : ReportField.kept (.button index) false = false := Bool.and_false _
  rw [released] at written
  rwa [ReportField.write, unchanged] at written

theorem read_copied {other : ρ} (fields : List ReportField)
    (onPad : ∀ field ∈ fields, field ∈ ReportField.onPad) {report : ρ} (built : form.Built report)
    (seen : ReportField)
    (same : seen ∈ fields ∨ form.read report seen = form.read other seen) :
    form.read ((fields.map fun field => field.write (form.read other field)).foldl form.edit report)
      seen = form.read other seen := by
  -- A field that is written stays alike, for later calls write other fields or the same value again.
  induction fields generalizing report with
  | nil => simpa using same
  | cons field rest ih =>
    apply ih (fun next member => onPad next (List.mem_cons_of_mem _ member))
      (lawful.built_edit built _)
    by_cases here : field = seen
    · right
      subst here
      rw [lawful.read_write built, ReportField.kept_of_mem (onPad field List.mem_cons_self)]
    · rw [lawful.read_write_of_ne built _ here]
      rcases same with member | same
      · left
        exact (List.mem_cons.mp member).resolve_left (Ne.symm here)
      · right
        exact same

theorem reached {report other : ρ} (built : form.Built report) (otherBuilt : form.Built other)
    (sameTail : form.tail report = form.tail other) :
    ∃ edits : List ReportEdit, edits.foldl form.edit report = other := by
  refine ⟨ReportField.onPad.map fun field => field.write (form.read other field), ?_⟩
  apply lawful.ext (lawful.built_foldl _ built) otherBuilt
  · intro seen
    apply lawful.read_copied _ (fun _ member => member) built
    rcases seen.mem_onPad_or_button with member | ⟨index, absent, rfl⟩
    · left
      exact member
    · right
      rw [lawful.read_absent built absent, lawful.read_absent otherBuilt absent]
  · rw [lawful.tail_foldl _ built, sameTail]

theorem mode_edit {report : ρ} (built : form.Built report) (edit : ReportEdit) :
    form.mode (form.edit report edit) = form.mode report := by
  rw [lawful.mode_eq (lawful.built_edit built edit), lawful.tail_edit built, lawful.mode_eq built]

theorem eq_iff {report other : ρ} (built : form.Built report) (otherBuilt : form.Built other) :
    report = other ↔ (∀ field, form.read report field = form.read other field) ∧
      form.mode report = form.mode other ∧ form.tail report = form.tail other := by
  constructor
  · intro same
    subst same
    exact ⟨fun _ => rfl, rfl, rfl⟩
  · intro same
    obtain ⟨fields, -, tail⟩ := same
    exact lawful.ext built otherBuilt fields tail

theorem independent : form.Independent where
  toLawful := lawful
  mode_edit := lawful.mode_edit
  write_write := lawful.write_write
  write_comm := lawful.write_comm
  eq_iff := lawful.eq_iff
  reached := lawful.reached

end Lawful

end ReportForm

/-! ## Switches one by one -/

theorem PerSide.get_set_of_ne {α : Type} (pair : PerSide α) {side other : Side} (value : α)
    (different : side ≠ other) : (pair.set side value).get other = pair.get other := by
  rw [PerSide.get_set, if_neg different]

namespace Report

def read (report : Report) : (field : ReportField) → field.Value
  | .stick side => report.stick side
  | .dpad => report.dpad
  | .button index => report.button index
  | .bumper side => report.bumper side
  | .trigger side => report.trigger side
  | .option side => report.option side
  | .stickPress side => report.stickPress side

theorem button_withButton (report : Report) (index other : Nat) (pressed : Bool) :
    (report.withButton index pressed).button other =
      if index = other then decide (index < 4) && pressed else report.button other := by
  unfold button withButton
  rw [Vector.getElem?_setIfInBounds]
  by_cases here : index = other
  · rw [if_pos here, if_pos here]
    by_cases inside : index < 4 <;> simp [inside]
  · rw [if_neg here, if_neg here]

theorem read_edit_self (report : Report) (field : ReportField) (value : field.Value) :
    (report.edit (field.write value)).read field = field.kept value := by
  cases field with
  | dpad => rfl
  | button index => exact (report.button_withButton index index value).trans (if_pos rfl)
  | _ => exact (PerSide.get_set ..).trans (if_pos rfl)

theorem read_edit_of_ne (report : Report) {field other : ReportField} (value : field.Value)
    (different : field ≠ other) : (report.edit (field.write value)).read other = report.read other := by
  -- Calls for different kinds of fields write different parts of the record.
  cases field with
  | dpad =>
    cases other with
    | dpad => exact absurd rfl different
    | _ => rfl
  | button index =>
    cases other with
    | button otherIndex =>
      have apart : index ≠ otherIndex := fun same => different (congrArg _ same)
      exact (report.button_withButton index otherIndex value).trans (if_neg apart)
    | _ => rfl
  | stick side =>
    cases other with
    | stick otherSide => exact PerSide.get_set_of_ne _ _ fun same => different (congrArg _ same)
    | _ => rfl
  | bumper side =>
    cases other with
    | bumper otherSide => exact PerSide.get_set_of_ne _ _ fun same => different (congrArg _ same)
    | _ => rfl
  | trigger side =>
    cases other with
    | trigger otherSide => exact PerSide.get_set_of_ne _ _ fun same => different (congrArg _ same)
    | _ => rfl
  | option side =>
    cases other with
    | option otherSide => exact PerSide.get_set_of_ne _ _ fun same => different (congrArg _ same)
    | _ => rfl
  | stickPress side =>
    cases other with
    | stickPress otherSide => exact PerSide.get_set_of_ne _ _ fun same => different (congrArg _ same)
    | _ => rfl

theorem ext_read {report other : Report} (same : ∀ field, report.read field = other.read field)
    (mode : report.mode = other.mode) (padding : report.padding = other.padding) :
    report = other := by
  have buttons : report.buttons = other.buttons := by
    apply Vector.ext
    intro index inside
    have here := same (.button index)
    simpa [read, button, inside] using here
  exact (Report.mk.injEq ..).mpr
    ⟨PerSide.ext_get fun side => same (.stick side),
      same .dpad,
      buttons,
      PerSide.ext_get fun side => same (.bumper side),
      PerSide.ext_get fun side => same (.trigger side),
      PerSide.ext_get fun side => same (.option side),
      PerSide.ext_get fun side => same (.stickPress side),
      mode, padding⟩

def form : ReportForm Report where
  Built report := ∃ packed, Built report packed
  edit := edit
  read := read
  mode := mode
  encode := encode

theorem tail_form (report : Report) : form.tail report = (report.mode, report.padding) := rfl

theorem uninterpreted_edit (report : Report) (edit : ReportEdit) :
    ((report.edit edit).mode, (report.edit edit).padding) = (report.mode, report.padding) := by
  cases edit <;> rfl

theorem lawful_form : form.Lawful where
  built_edit built edit := by
    obtain ⟨packed, built⟩ := built
    exact ⟨packed.edit edit, built.edited edit⟩
  read_write _ field value := read_edit_self _ field value
  read_write_of_ne _ _ _ value different := read_edit_of_ne _ value different
  edit_offPad := by
    intro report _ index absent pressed
    have same : report.buttons.setIfInBounds index pressed = report.buttons :=
      Vector.setIfInBounds_eq_of_size_le absent
    exact congrArg (fun buttons => { report with buttons }) same
  tail_edit := by
    intro report _ edit
    rw [tail_form, tail_form]
    exact report.uninterpreted_edit edit
  mode_eq _ := rfl
  ext := by
    intro report other _ _ same tail
    rw [tail_form, tail_form] at tail
    exact ext_read same (congrArg Prod.fst tail) (congrArg Prod.snd tail)

end Report

/-! ## Switches in masks -/

namespace PackedReport

open Report (bitAt mask)

def isSet (mask : UInt8) (position : Nat) : Bool := mask &&& bitAt position ≠ 0

def read (report : PackedReport) : (field : ReportField) → field.Value
  | .stick side => report.sticks.get side
  | .dpad => report.dpad
  | .button index => decide (index < 4) && isSet report.buttons index
  | .bumper side => isSet report.bumpers side.position
  | .trigger side => isSet report.triggers side.position
  | .option side => isSet report.options side.position
  | .stickPress side => isSet report.stickPresses side.position

theorem isSet_mask {bits : List Bool} (short : bits.length ≤ 8) {position : Nat}
    (inside : position < 8) : isSet (mask bits) position = bits[position]?.getD false := by
  have value : (mask bits &&& bitAt position).toNat =
      ((bits[position]?.getD false).toNat * 2 ^ position) := by
    rw [UInt8.toNat_and, Report.toNat_mask short, Report.toNat_bitAt inside, Nat.and_two_pow,
      Report.testBit_numberOfBits]
  simp only [isSet, ne_eq, ← UInt8.toNat_inj, value]
  cases bits[position]?.getD false <;> simp

theorem isSet_mask_side (pair : PerSide Bool) (side : Side) :
    isSet (mask pair.toList) side.position = pair.get side := by
  have inside : side.position < 8 := by cases side <;> decide
  have short : pair.toList.length ≤ 8 := (by decide : 2 ≤ 8)
  rw [isSet_mask short inside]
  cases side <;> rfl

theorem read_pack (report : Report) (field : ReportField) :
    report.pack.read field = report.read field := by
  cases field with
  | stick side => rfl
  | dpad => rfl
  | button index =>
    have short : report.buttons.toList.length ≤ 8 := by simp
    change (decide (index < 4) && isSet (mask report.buttons.toList) index) = report.button index
    by_cases inside : index < 4
    · rw [isSet_mask short (by omega), Vector.getElem?_toList, decide_eq_true inside]
      rfl
    · have absent : report.buttons[index]? = none := Vector.getElem?_eq_none (by omega)
      rw [decide_eq_false inside, Report.button, absent]
      rfl
  | bumper side => exact isSet_mask_side _ _
  | trigger side => exact isSet_mask_side _ _
  | option side => exact isSet_mask_side _ _
  | stickPress side => exact isSet_mask_side _ _

def form : ReportForm PackedReport where
  Built packed := ∃ report, Report.Built report packed
  edit := edit
  read := read
  mode := mode
  encode := toBytes

theorem tail_form (packed : PackedReport) : form.tail packed = (packed.mode, packed.padding) := rfl

theorem exists_pack {packed : PackedReport} (built : form.Built packed) :
    ∃ report : Report, Report.form.Built report ∧ packed = report.pack := by
  obtain ⟨report, built⟩ := built
  exact ⟨report, ⟨packed, built⟩, built.pack_eq.symm⟩

theorem lawful_form : form.Lawful where
  built_edit := by
    intro packed built edit
    obtain ⟨report, built⟩ := built
    exact ⟨report.edit edit, built.edited edit⟩
  read_write := by
    intro packed built field value
    obtain ⟨report, built, rfl⟩ := exists_pack built
    change (report.pack.edit (field.write value)).read field = _
    rw [← Report.pack_edit, read_pack, Report.read_edit_self]
  read_write_of_ne := by
    intro packed built field other value different
    obtain ⟨report, built, rfl⟩ := exists_pack built
    change (report.pack.edit (field.write value)).read other = report.pack.read other
    rw [← Report.pack_edit, read_pack, read_pack, Report.read_edit_of_ne _ _ different]
  edit_offPad := by
    intro packed built index absent pressed
    exact if_neg (Nat.not_lt.mpr absent)
  tail_edit := by
    intro packed built edit
    obtain ⟨report, built, rfl⟩ := exists_pack built
    change form.tail (report.pack.edit edit) = form.tail report.pack
    rw [← Report.pack_edit, tail_form, tail_form]
    exact report.uninterpreted_edit edit
  mode_eq _ := rfl
  ext := by
    intro packed otherPacked built otherBuilt same tail
    obtain ⟨report, built, rfl⟩ := exists_pack built
    obtain ⟨other, otherBuilt, rfl⟩ := exists_pack otherBuilt
    have fields (field : ReportField) : report.read field = other.read field := by
      have seen : report.pack.read field = other.pack.read field := same field
      rwa [read_pack, read_pack] at seen
    rw [tail_form, tail_form] at tail
    exact congrArg Report.pack
      (Report.ext_read fields (congrArg Prod.fst tail) (congrArg Prod.snd tail))

end PackedReport

/-- In reports that are built by calls from decoded bytes or from a pad at rest the fields are
independent of each other. This holds of switches in masks as well as one by one, and the same calls
bring reports whose fields and bytes are the same. -/
theorem report_fields_independent :
    Report.form.Independent ∧ PackedReport.form.Independent ∧
    ∀ report packed, Report.Built report packed →
      (∀ field, packed.read field = report.read field) ∧ packed.toBytes = report.encode := by
  refine ⟨Report.lawful_form.independent, PackedReport.lawful_form.independent, ?_⟩
  intro report packed built
  obtain rfl := built.pack_eq
  exact ⟨PackedReport.read_pack report, report.toBytes_pack⟩

/-- Each call sets its own bit, and a button that the pad does not have is not there to be set. -/
example :
    ((((Report.idle.withButton 2 true).withBumper .right true).withOption .left true).withButton 9
      true).encode = #v[127, 127, 127, 127, 0x48, 0x12, 0, 0] := by
  decide

end Gamepad
