import Gamepad.Configuration.Storage

/-!
What becomes of the bindings of a configuration that was accepted. A command that was read names a
control of the pad, so only the name of its key can stand against it when it is applied. Main
statement: the key map of an accepted configuration can be built exactly if every key that its
bindings name is known, and the first unknown name is what refuses it.
-/

namespace Gamepad

def Control.OnPad : Control → Prop
  | .button index => index < 4
  | _ => True

theorem KeyMap.read_of_onPad (keyMap : KeyMap) (control : Control) (onPad : control.OnPad) :
    ∃ key, keyMap.read control = .ok key := by
  cases control with
  | button index =>
    have inside : index < 4 := onPad
    exact ⟨keyMap.buttons[index], by simp [read, inside]⟩
  | dpad direction => exact ⟨_, rfl⟩
  | bumper side => exact ⟨_, rfl⟩
  | trigger side => exact ⟨_, rfl⟩
  | stick side direction => exact ⟨_, rfl⟩
  | stickPress side => exact ⟨_, rfl⟩
  | option side => exact ⟨_, rfl⟩

theorem exists_ok_of_bind {ε α β : Type} {first : Except ε α} {next : α → Except ε β} {result : β}
    (done : first >>= next = .ok result) : ∃ value, first = .ok value ∧ next value = .ok result := by
  cases first with
  | error error => cases done
  | ok value => exact ⟨value, rfl, done⟩

theorem ok_of_toOption {ε α : Type} {result : Except ε α} {value : α}
    (present : result.toOption = some value) : result = .ok value := by
  cases result with
  | error error => cases present
  | ok given => exact congrArg Except.ok (Option.some.inj present)

namespace Binding

theorem take_eq_ok {α : Type} {label : String} {read : String → Except BindingError α}
    {words rest : List String} {value : α} (taken : take label read words = .ok (value, rest)) :
    ∃ text, words = text :: rest ∧ read text = .ok value := by
  cases words with
  | nil => cases taken
  | cons text others =>
    cases found : read text with
    | error error => simp [take, found, Except.map] at taken
    | ok given =>
      simp only [take, found, Except.map, Except.ok.injEq, Prod.mk.injEq] at taken
      obtain ⟨rfl, rfl⟩ := taken
      exact ⟨text, rfl, found⟩

theorem lt_of_parseButton {text : String} {index : Nat} (read : parseButton text = .ok index) :
    index < 4 := by
  unfold parseButton at read
  split at read
  next number _ =>
    split at read
    next small =>
      cases read
      exact UInt32.lt_iff_toNat_lt.mp small
    next => cases read
  next => cases read

theorem onPad_of_takeControl {command : String} {words rest : List String} {control : Control}
    (taken : takeControl command words = .ok (control, rest)) : control.OnPad := by
  unfold takeControl at taken
  split at taken
  · obtain ⟨_, _, taken⟩ := exists_ok_of_bind taken
    cases taken
    trivial
  · obtain ⟨_, found, taken⟩ := exists_ok_of_bind taken
    obtain ⟨_, _, read⟩ := take_eq_ok found
    cases taken
    exact lt_of_parseButton read
  · obtain ⟨_, _, taken⟩ := exists_ok_of_bind taken
    cases taken
    trivial
  · obtain ⟨_, _, taken⟩ := exists_ok_of_bind taken
    cases taken
    trivial
  · obtain ⟨_, _, taken⟩ := exists_ok_of_bind taken
    obtain ⟨_, _, taken⟩ := exists_ok_of_bind taken
    cases taken
    trivial
  · obtain ⟨_, _, taken⟩ := exists_ok_of_bind taken
    cases taken
    trivial
  · obtain ⟨_, _, taken⟩ := exists_ok_of_bind taken
    cases taken
    trivial
  · cases taken

theorem onPad_of_parse {line : String} {binding : Binding} (parsed : parse line = .ok binding) :
    binding.control.OnPad := by
  unfold parse ofWords at parsed
  split at parsed
  · cases parsed
  · obtain ⟨⟨control, rest⟩, taken, parsed⟩ := exists_ok_of_bind parsed
    obtain ⟨spec, _, parsed⟩ := exists_ok_of_bind parsed
    cases parsed
    exact onPad_of_takeControl taken

theorem apply_of_onPad (binding : Binding) (keyMap : KeyMap) (onPad : binding.control.OnPad) :
    binding.apply keyMap =
      binding.spec.resolve.map fun key => (key, keyMap.write binding.control key) := by
  obtain ⟨previous, held⟩ := keyMap.read_of_onPad binding.control onPad
  unfold apply KeyMap.set
  rw [held]
  cases binding.spec.resolve <;> rfl

end Binding

def KeySpec.unknownName? : KeySpec → Option String
  | .name text => if (KeyCode.ofName? text).isNone then some text else none
  | _ => none

theorem KeySpec.resolve_eq_ok_iff (spec : KeySpec) :
    (∃ key, spec.resolve = .ok key) ↔ spec.unknownName? = none := by
  cases spec with
  | code value => exact ⟨fun _ => rfl, fun _ => ⟨_, rfl⟩⟩
  | char c => exact ⟨fun _ => rfl, fun _ => ⟨_, rfl⟩⟩
  | name text => cases found : KeyCode.ofName? text <;> simp [resolve, unknownName?, found]

theorem KeySpec.resolve_of_unknownName? {spec : KeySpec} {text : String}
    (unknown : spec.unknownName? = some text) : spec.resolve = .error (.unknownKeyName text) := by
  cases spec with
  | code value => cases unknown
  | char c => cases unknown
  | name name =>
    cases found : KeyCode.ofName? name with
    | some key => simp [unknownName?, found] at unknown
    | none =>
      have same : name = text := by simpa [unknownName?, found] using unknown
      rw [← same]
      simp only [resolve, found]

namespace Configuration

def unknownKeyIn? (line : String) : Option String :=
  (Binding.parse line).toOption.bind fun binding => binding.spec.unknownName?

/-- The first of the keys that the bindings name without their being known. -/
def unknownKey? (configuration : Configuration) : Option String :=
  configuration.bindings.findSome? unknownKeyIn?

theorem validate_of_load {files : Files} {path : Path} {configuration : Configuration}
    (loaded : load files path = .ok configuration) : configuration.validate = .ok () := by
  unfold load at loaded
  obtain ⟨text, _, loaded⟩ := exists_ok_of_bind loaded
  split at loaded
  next found _ =>
    obtain ⟨_, valid, loaded⟩ := exists_ok_of_bind loaded
    cases loaded
    exact valid
  next => cases loaded

theorem commands_of_validate {configuration : Configuration}
    (valid : configuration.validate = .ok ()) : ∃ commands, configuration.commands = .ok commands := by
  simp only [validate] at valid
  split at valid
  · cases valid
  · split at valid
    · cases valid
    · obtain ⟨_, _, valid⟩ := exists_ok_of_bind valid
      obtain ⟨commands, parsed, _⟩ := exists_ok_of_bind valid
      exact ⟨commands, parsed⟩

theorem parse_of_parseBinding {line : String} {binding : Binding}
    (parsed : parseBinding line = .ok binding) : Binding.parse line = .ok binding := by
  unfold parseBinding at parsed
  cases found : Binding.parse line with
  | error error =>
    rw [found] at parsed
    cases parsed
  | ok given =>
    rw [found] at parsed
    exact congrArg Except.ok (Except.ok.inj parsed)

/-- A key map comes about unless a name is unknown, and then the name is what refuses it. -/
def BuiltUnless (unknown? : Option String) (built : Except ConfigurationError KeyMap) : Prop :=
  match unknown? with
  | none => ∃ keyMap, built = .ok keyMap
  | some text => built = .error (.bindingRefused (.unknownKeyName text))

theorem builtUnless_of_mapM (lines : List String) (commands : List Binding)
    (parsed : lines.mapM parseBinding = .ok commands) (keyMap : KeyMap) :
    BuiltUnless (lines.findSome? unknownKeyIn?) (commands.foldlM applyCommand keyMap) := by
  induction lines generalizing commands keyMap with
  | nil =>
    cases parsed
    exact ⟨keyMap, rfl⟩
  | cons line rest ih =>
    rw [List.mapM_cons] at parsed
    obtain ⟨binding, read, parsed⟩ := exists_ok_of_bind parsed
    obtain ⟨others, readRest, parsed⟩ := exists_ok_of_bind parsed
    cases parsed
    have parsedLine := parse_of_parseBinding read
    have unknownHere : unknownKeyIn? line = binding.spec.unknownName? := by
      simp [unknownKeyIn?, parsedLine, Except.toOption]
    have applied := binding.apply_of_onPad keyMap (Binding.onPad_of_parse parsedLine)
    rw [List.findSome?_cons, unknownHere, List.foldlM_cons]
    cases unknown : binding.spec.unknownName? with
    | none =>
      obtain ⟨key, found⟩ := binding.spec.resolve_eq_ok_iff.mpr unknown
      rw [found] at applied
      have next : applyCommand keyMap binding = .ok (keyMap.write binding.control key) := by
        rw [applyCommand, applied]
        rfl
      rw [next]
      exact ih others readRest _
    | some text =>
      rw [KeySpec.resolve_of_unknownName? unknown] at applied
      have refused : applyCommand keyMap binding = .error (.bindingRefused (.unknownKeyName text)) := by
        rw [applyCommand, applied]
        rfl
      rw [refused]
      rfl

theorem keyMap_builtUnless {configuration : Configuration}
    (valid : configuration.validate = .ok ()) :
    BuiltUnless configuration.unknownKey? configuration.keyMap := by
  obtain ⟨commands, parsed⟩ := commands_of_validate valid
  have built := builtUnless_of_mapM configuration.bindings commands parsed .empty
  rw [keyMap, parsed]
  exact built

/-- A command that was read can be applied to any key map exactly if the name of its key, where it
has one, is known. So a configuration that is valid, as every loaded one is, has a key map exactly
if its bindings name no unknown key; otherwise the first unknown name refuses the key map. -/
theorem keyMap_of_accepted (configuration : Configuration)
    (accepted : configuration.validate = .ok () ∨ ∃ files path, load files path = .ok configuration) :
    (∀ line binding, Binding.parse line = .ok binding → ∀ keyMap : KeyMap,
      (∃ bound, binding.apply keyMap = .ok bound) ↔ binding.spec.unknownName? = none) ∧
    ((∃ keyMap, configuration.keyMap = .ok keyMap) ↔ configuration.unknownKey? = none) ∧
    ∀ text, configuration.unknownKey? = some text →
      configuration.keyMap = .error (.bindingRefused (.unknownKeyName text)) := by
  have valid : configuration.validate = .ok () := by
    rcases accepted with valid | ⟨files, path, loaded⟩
    · exact valid
    · exact validate_of_load loaded
  have built := keyMap_builtUnless valid
  refine ⟨fun line binding read keyMap => ?_, ?_, ?_⟩
  · rw [binding.apply_of_onPad keyMap (Binding.onPad_of_parse read), ← KeySpec.resolve_eq_ok_iff]
    cases binding.spec.resolve with
    | error error => simp [Except.map]
    | ok key => simp [Except.map]
  · cases unknown : configuration.unknownKey? with
    | none =>
      rw [unknown] at built
      exact ⟨fun _ => rfl, fun _ => built⟩
    | some text =>
      rw [unknown] at built
      have refused : configuration.keyMap = .error (.bindingRefused (.unknownKeyName text)) := built
      simp [refused]
  · intro text unknown
    rw [unknown] at built
    exact built

theorem keyMap_of_arrow_and_char :
    let configuration : Configuration :=
      { bindings := ["map-dpad up name Up", "map-button 0 char x"] }
    configuration.validate = .ok () ∧ ∃ keyMap, configuration.keyMap = .ok keyMap := by
  intro configuration
  have valid : configuration.validate = .ok () := ok_of_toOption (by decide +kernel)
  exact ⟨valid, (keyMap_of_accepted configuration (.inl valid)).2.1.mpr (by decide +kernel)⟩

/-- A configuration that is loaded without a complaint need not have a key map. -/
theorem loaded_without_keyMap :
    let text := "bindings = [\"map-dpad up name hyper\"]\n"
    let files := ({} : Files).put ["config.toml"] (.file text.toUTF8)
    let configuration : Configuration := { bindings := ["map-dpad up name hyper"] }
    load files ["config.toml"] = .ok configuration ∧ configuration.validate = .ok () ∧
      configuration.keyMap = .error (.bindingRefused (.unknownKeyName "hyper")) := by
  intro text files configuration
  have loaded : load files ["config.toml"] = .ok configuration := ok_of_toOption (by decide +kernel)
  have unknown : configuration.unknownKey? = some "hyper" := by decide +kernel
  have built := keyMap_builtUnless (validate_of_load loaded)
  rw [unknown] at built
  exact ⟨loaded, validate_of_load loaded, built⟩

end Configuration

end Gamepad
