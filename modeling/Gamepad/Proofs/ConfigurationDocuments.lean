import Gamepad.Configuration.Format
import Gamepad.Proofs.TomlDocuments
import Mathlib.Algebra.Group.Nat.Defs

/-!
The document of a configuration, whole or with parts of it taken out. What is taken out has its
default, and the rest is as it was. Main statements: the table of such a document gives back the
configuration, and its text gives back the table.
-/

namespace Gamepad

namespace Toml

/-- What is taken out of a document: fields of the root, sections, and fields of sections. -/
structure Cut where
  entry : String → Bool
  part : String → Bool
  field : String → String → Bool

def Cut.nothing : Cut where
  entry _ := false
  part _ := false
  field _ _ := false

def Cut.removes (cut : Cut) (name key : String) : Bool := cut.part name || cut.field name key

namespace Document

def fieldsWithout (cut : Cut) (name : String) (entries : List (String × Field)) :
    List (String × Field) :=
  entries.filter fun entry => !cut.field name entry.1

def without (document : Document) (cut : Cut) : Document where
  entries := document.entries.filter fun entry => !cut.entry entry.1
  sections := (document.sections.filter fun part => !cut.part part.1).map fun part =>
    (part.1, fieldsWithout cut part.1 part.2)

theorem without_nothing (document : Document) : document.without .nothing = document := by
  have whole : ∀ {β : Type} (items : List (String × β)), items.filter (fun _ => !false) = items :=
    fun items => List.filter_eq_self.mpr fun _ _ => rfl
  have unchanged : (document.sections.map fun part =>
      (part.1, fieldsWithout .nothing part.1 part.2)) = document.sections.map id :=
    List.map_congr_left fun part _ => Prod.ext rfl (whole part.2)
  have sections : (document.without .nothing).sections = document.sections := by
    rw [List.map_id] at unchanged
    exact (congrArg _ (whole document.sections)).trans unchanged
  exact congrArg₂ Document.mk (whole document.entries) sections

theorem WellFormed.without {document : Document} (wellFormed : document.WellFormed) (cut : Cut) :
    (document.without cut).WellFormed where
  entries entry inside := wellFormed.entries entry (List.mem_of_mem_filter inside)
  sections part inside := by
    obtain ⟨whole, given, rfl⟩ := List.mem_map.mp inside
    obtain ⟨name, entries, distinct⟩ := wellFormed.sections whole (List.mem_of_mem_filter given)
    refine ⟨name, fun entry kept => entries entry (List.mem_of_mem_filter kept), ?_⟩
    exact (List.filter_sublist.map Prod.fst).nodup distinct
  distinct := by
    have names : ((document.without cut).sections.map Prod.fst).Sublist
        (document.sections.map Prod.fst) := by
      rw [Document.without, List.map_map]
      exact List.filter_sublist.map Prod.fst
    exact ((List.filter_sublist.map Prod.fst).append names).nodup wellFormed.distinct

end Document

theorem lookup_filter {β : Type} (keep : String → Bool) (entries : List (String × β))
    (key : String) : (entries.filter fun entry => keep entry.1).lookup key =
      if keep key then entries.lookup key else none := by
  induction entries with
  | nil => simp
  | cons entry entries ih =>
    obtain ⟨name, value⟩ := entry
    by_cases same : key = name
    · subst same
      cases kept : keep key with
      | true => simp [kept]
      | false => simpa [kept] using ih
    · have other : (key == name) = false := beq_eq_false_iff_ne.mpr same
      rw [List.lookup_cons, other, List.filter_cons]
      split
      · rw [List.lookup_cons, other]
        exact ih
      · exact ih

theorem lookup_map {β γ : Type} (change : String → β → γ) (entries : List (String × β))
    (key : String) : (entries.map fun entry => (entry.1, change entry.1 entry.2)).lookup key =
      (entries.lookup key).map (change key) := by
  induction entries with
  | nil => rfl
  | cons entry entries ih =>
    obtain ⟨name, value⟩ := entry
    by_cases same : key = name
    · subst same
      simp
    · have other : (key == name) = false := beq_eq_false_iff_ne.mpr same
      rw [List.map_cons, List.lookup_cons, List.lookup_cons, other]
      exact ih

namespace Document

def fieldAt? (document : Document) (name key : String) : Option Field :=
  (document.sections.lookup name).bind fun entries => entries.lookup key

theorem lookup_values (entries : List (String × Field)) (key : String) :
    (values entries).lookup key = (entries.lookup key).map Field.toValue :=
  lookup_map (fun _ => Field.toValue) entries key

theorem lookup_sections (document : Document) (cut : Cut) (name : String) :
    (document.without cut).sections.lookup name =
      if cut.part name then none
      else (document.sections.lookup name).map (fieldsWithout cut name) := by
  rw [without, lookup_map (fieldsWithout cut), lookup_filter (fun name => !cut.part name)]
  cases cut.part name <;> rfl

theorem field?_toTable (document : Document) (key : String) :
    field? document.toTable key = ((document.entries.lookup key).map Field.toValue).or
      ((document.sections.lookup key).map fun entries => .table (values entries)) := by
  rw [field?, toTable, List.lookup_append, lookup_values]
  exact congrArg _ (lookup_map (fun _ entries => Value.table (values entries)) _ key)

theorem field?_entry (document : Document) (cut : Cut) (key : String)
    (noPart : document.sections.lookup key = none) :
    field? (document.without cut).toTable key =
      if cut.entry key then none else (document.entries.lookup key).map Field.toValue := by
  rw [field?_toTable, lookup_sections, noPart, without, lookup_filter (fun key => !cut.entry key)]
  cases cut.entry key <;> cases cut.part key <;> simp

theorem field?_section (document : Document) (cut : Cut) (name : String)
    (noEntry : document.entries.lookup name = none) :
    field? (document.without cut).toTable name =
      if cut.part name then none
      else (document.sections.lookup name).map fun entries =>
        .table (values (fieldsWithout cut name entries)) := by
  have noEntryLeft : (document.without cut).entries.lookup name = none := by
    rw [without, lookup_filter (fun key => !cut.entry key), noEntry, ite_self]
  rw [field?_toTable, noEntryLeft, lookup_sections]
  cases cut.part name <;> simp [Function.comp_def]

end Document

end Toml

namespace Configuration

open Toml

theorem fieldsOf_without (document : Document) (cut : Cut) (name : String) (keys : List String)
    (noEntry : document.entries.lookup name = none) :
    Configuration.section? (document.without cut).toTable name keys = some (keys.map fun key =>
      if cut.removes name key then none else (document.fieldAt? name key).map Field.toValue) := by
  rw [section?, Document.field?_section document cut name noEntry]
  unfold Cut.removes Document.fieldAt?
  cases document.sections.lookup name with
  | none => simp
  | some entries =>
    cases cut.part name with
    | true => rfl
    | false =>
      simp only [Option.map_some, Option.bind_some, Bool.false_eq_true, if_false, Bool.false_or,
        fieldsOf?]
      refine congrArg some (List.map_congr_left fun key _ => ?_)
      rw [field?, Document.lookup_values, Document.fieldsWithout,
        lookup_filter (fun key => !cut.field name key)]
      cases cut.field name key <;> rfl

def pick {α : Type} (cut : Cut) (name key : String) (default given : α) : α :=
  if cut.removes name key then default else given

def without (configuration : Configuration) (cut : Cut) : Configuration where
  bindings := if cut.entry "bindings" then defaults.bindings else configuration.bindings
  quantizer :=
    { deadZoneSquared :=
        pick cut "quantizer" "dead_zone_squared" defaults.quantizer.deadZoneSquared
          configuration.quantizer.deadZoneSquared
      axisBand :=
        pick cut "quantizer" "axis_band" defaults.quantizer.axisBand
          configuration.quantizer.axisBand }
  policy := pick cut "queue" "overflow" defaults.policy configuration.policy
  capacity := pick cut "registry" "capacity" defaults.capacity configuration.capacity
  sourceName := pick cut "registry" "name_prefix" defaults.sourceName configuration.sourceName
  level := pick cut "logging" "level" defaults.level configuration.level

theorem without_nothing (configuration : Configuration) :
    configuration.without .nothing = configuration := rfl

/-! ## Values -/

theorem text?_toValue (text : String) : text? (Field.text text).toValue = some text := rfl

theorem texts?_toValue (items : List String) : texts? (Field.texts items).toValue = some items := by
  rw [Field.toValue, texts?]
  induction items with
  | nil => rfl
  | cons item items ih =>
    rw [List.map_cons, List.mapM_cons, ih]
    rfl

theorem threshold?_toInt64 (value : Int32) :
    threshold? (Field.number value.toInt64).toValue = some value := by
  rw [Field.toValue, threshold?, Int32.toInt_toInt64, Int32.ofInt_toInt]
  exact if_pos ⟨value.minValue_le_toInt, value.toInt_le⟩

theorem capacity?_ofNat (capacity : Nat) (fits : capacity < 2 ^ 63) :
    capacity? (Field.number (.ofNat capacity)).toValue = some capacity := by
  rw [Field.toValue, capacity?, Int64.toInt_ofNat_of_lt fits]
  exact if_pos (Int.natCast_nonneg capacity)

theorem policy?_policyName (policy : OverflowPolicy) :
    policy? (Field.text (policyName policy)).toValue = some policy := by
  cases policy <;> rfl

theorem orDefault_unless {α : Type} {read : Value → Option α} {field? : Option Field}
    {field : Field} {given : α} (found : field? = some field)
    (reads : read field.toValue = some given) (default : α) (cut : Bool) :
    orDefault read default (if cut then none else field?.map Field.toValue) =
      some (if cut then default else given) := by
  subst found
  cases cut with
  | true => rfl
  | false => exact reads

/-! ## The draft -/

theorem field?_threshold (value : Int32) :
    DraftField.field? (.number value.toInt) = some (.number value.toInt64) := by
  have least := value.minValue_le_toInt
  have most := value.toInt_le
  rw [Int32.toInt_minValue] at least
  rw [Int32.toInt_maxValue] at most
  rw [DraftField.field?, Int64.toInt_minValue, Int64.toInt_maxValue, Int64.ofInt_int32ToInt]
  exact if_pos (by omega)

theorem field?_capacity (capacity : Nat) : DraftField.field? (.number capacity) =
    if capacity < 2 ^ 63 then some (.number (.ofNat capacity)) else none := by
  rw [DraftField.field?, Int64.toInt_minValue, Int64.toInt_maxValue, Int64.ofInt_eq_ofNat]
  refine if_congr ?_ rfl rfl
  omega

def document (configuration : Configuration) : Document where
  entries := [("bindings", .texts configuration.bindings)]
  sections :=
    [("quantizer",
       [("dead_zone_squared", .number configuration.quantizer.deadZoneSquared.toInt64),
        ("axis_band", .number configuration.quantizer.axisBand.toInt64)]),
     ("queue", [("overflow", .text (policyName configuration.policy))]),
     ("registry",
       [("capacity", .number (.ofNat configuration.capacity)),
        ("name_prefix", .text configuration.sourceName)]),
     ("logging", [("level", .text configuration.level)])]

theorem toDocument?_eq (configuration : Configuration) : configuration.toDocument? =
    if configuration.capacity < 2 ^ 63 then some configuration.document else none := by
  simp only [toDocument?, draft, Draft.document?, Draft.fields?, List.mapM_cons, List.mapM_nil,
    field?_threshold, field?_capacity]
  split <;> rfl

theorem toDocument?_of_fits {configuration : Configuration}
    (fits : configuration.capacity < 2 ^ 63) :
    configuration.toDocument? = some configuration.document := by
  rw [toDocument?_eq, if_pos fits]

theorem toDocument?_of_exceeds {configuration : Configuration}
    (exceeds : 2 ^ 63 ≤ configuration.capacity) : configuration.toDocument? = none := by
  rw [toDocument?_eq, if_neg (Nat.not_lt_of_le exceeds)]

theorem wellFormed_document (configuration : Configuration) :
    configuration.document.WellFormed := by
  have bare : IsBare "bindings" ∧ IsBare "quantizer" ∧ IsBare "dead_zone_squared" ∧
      IsBare "axis_band" ∧ IsBare "queue" ∧ IsBare "overflow" ∧ IsBare "registry" ∧
      IsBare "capacity" ∧ IsBare "name_prefix" ∧ IsBare "logging" ∧ IsBare "level" := by
    refine ⟨?_, ?_, ?_, ?_, ?_, ?_, ?_, ?_, ?_, ?_, ?_⟩ <;>
    · apply isBare_ofList
      decide
  unfold document
  constructor
  · simp only [List.forall_mem_cons, bare]
    simp
  · simp only [List.forall_mem_cons, bare]
    simp
  · simp

/-- Where a document keeps the values of a configuration. No field of the root has the name of a
section, and no section that of a field. -/
structure Holds (document : Document) (configuration : Configuration) : Prop where
  bindings : document.entries.lookup "bindings" = some (.texts configuration.bindings)
  deadZone : document.fieldAt? "quantizer" "dead_zone_squared" =
    some (.number configuration.quantizer.deadZoneSquared.toInt64)
  band : document.fieldAt? "quantizer" "axis_band" =
    some (.number configuration.quantizer.axisBand.toInt64)
  overflow : document.fieldAt? "queue" "overflow" = some (.text (policyName configuration.policy))
  capacity : document.fieldAt? "registry" "capacity" =
    some (.number (.ofNat configuration.capacity))
  namePrefix : document.fieldAt? "registry" "name_prefix" = some (.text configuration.sourceName)
  level : document.fieldAt? "logging" "level" = some (.text configuration.level)
  apart : document.sections.lookup "bindings" = none ∧
    document.entries.lookup "quantizer" = none ∧ document.entries.lookup "queue" = none ∧
    document.entries.lookup "registry" = none ∧ document.entries.lookup "logging" = none
  fits : configuration.capacity < 2 ^ 63

theorem holds_document {configuration : Configuration} (fits : configuration.capacity < 2 ^ 63) :
    Holds configuration.document configuration :=
  ⟨rfl, rfl, rfl, rfl, rfl, rfl, rfl, ⟨rfl, rfl, rfl, rfl, rfl⟩, fits⟩

/-- What is left of the document of a configuration gives the configuration back, with the defaults
for what was taken out. -/
theorem ofTable?_without {document : Document} {configuration : Configuration}
    (holds : Holds document configuration) (cut : Cut) :
    ofTable? (document.without cut).toTable = some (configuration.without cut) := by
  obtain ⟨noPart, noQuantizer, noQueue, noRegistry, noLogging⟩ := holds.apart
  rw [ofTable?, document.field?_entry cut _ noPart, fieldsOf_without document cut _ _ noQuantizer,
    fieldsOf_without document cut _ _ noQueue, fieldsOf_without document cut _ _ noRegistry,
    fieldsOf_without document cut _ _ noLogging]
  simp only [List.map_cons, List.map_nil, Option.bind_eq_bind, Option.bind_some]
  rw [orDefault_unless holds.bindings (texts?_toValue _),
    orDefault_unless holds.deadZone (threshold?_toInt64 _),
    orDefault_unless holds.band (threshold?_toInt64 _),
    orDefault_unless holds.overflow (policy?_policyName _),
    orDefault_unless holds.capacity (capacity?_ofNat _ holds.fits),
    orDefault_unless holds.namePrefix (text?_toValue _),
    orDefault_unless holds.level (text?_toValue _)]
  rfl

end Configuration

end Gamepad
