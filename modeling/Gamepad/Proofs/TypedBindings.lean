import Gamepad.Proofs.BindingRuns
import Gamepad.Proofs.ConsoleRefinement

/-!
Bindings of a configuration and bindings that are typed at the console. A configuration reads all
its lines before it applies the first of them; the console is done with one line before it looks at
the next, and sorts a line by its first word. Main statement: both come to the same key map, or
both refuse a line, and the console changes in nothing else.
-/

namespace Gamepad

abbrev Accepted {ε α : Type} (answer : Except ε α) : Prop := answer.isOk = true

theorem not_accepted_error {ε α : Type} (error : ε) : ¬Accepted (.error error : Except ε α) :=
  Bool.false_ne_true

theorem forall_accepted_iff {ε α ζ β : Type} {answers : List (Except ε α)}
    {others : List (Except ζ β)} (same : answers.map Except.isOk = others.map Except.isOk) :
    (∀ answer ∈ answers, Accepted answer) ↔ ∀ answer ∈ others, Accepted answer := by
  have all := congrArg (fun oks => ∀ ok ∈ oks, ok = true) same
  exact Iff.of_eq (by simpa only [List.forall_mem_map] using all)

namespace KeyMap

variable (keyMap : KeyMap) {line : String}

theorem serve_unreadable {error : BindingError} (unread : Binding.parse line = .error error) :
    keyMap.serve (.line line) = (.error error, keyMap) :=
  keyMap.serve_of_refused (.unreadable unread)

theorem serve_readable {binding : Binding} (read : Binding.parse line = .ok binding) :
    keyMap.serve (.line line) = keyMap.serve (.given binding) := by
  rw [serve, BindingRequest.read, read]
  rfl

theorem serve_of_apply_error {binding : Binding} {error : BindingError}
    (failed : binding.apply keyMap = .error error) :
    keyMap.serve (.given binding) = (.error error, keyMap) :=
  keyMap.serve_of_failed failed

theorem serve_of_apply_ok {binding : Binding} {key : KeyCode} {written : KeyMap}
    (done : binding.apply keyMap = .ok (key, written)) :
    keyMap.serve (.given binding) = (.ok key, written) :=
  keyMap.serve_of_done done

end KeyMap

namespace Configuration

/-- Reads all lines and then applies what was read. -/
def bindAll (lines : List String) (keyMap : KeyMap) : Except ConfigurationError KeyMap := do
  (← lines.mapM parseBinding).foldlM applyCommand keyMap

theorem bindAll_unread {line : String} {error : ConfigurationError}
    (unread : parseBinding line = .error error) (rest : List String) (keyMap : KeyMap) :
    bindAll (line :: rest) keyMap = .error error := by
  rw [bindAll, List.mapM_cons, unread]
  rfl

theorem bindAll_cons {line : String} {binding : Binding} (read : parseBinding line = .ok binding)
    (rest : List String) (keyMap : KeyMap) :
    bindAll (line :: rest) keyMap =
      rest.mapM parseBinding >>= fun later =>
        applyCommand keyMap binding >>= fun keyMap => later.foldlM applyCommand keyMap := by
  rw [bindAll, List.mapM_cons, read]
  cases rest.mapM parseBinding <;> rfl

/-- It makes no difference that lines are read long before they are applied: there is a key map
exactly if each line is accepted in its turn. -/
theorem bindAll_eq_ok_iff (lines : List String) (keyMap final : KeyMap) :
    bindAll lines keyMap = .ok final ↔
      (∀ answer ∈ (KeyMap.serveAll (lines.map .line) keyMap).1, Accepted answer) ∧
        (KeyMap.serveAll (lines.map .line) keyMap).2 = final := by
  induction lines generalizing keyMap with
  | nil =>
    change Except.ok keyMap = .ok final ↔ _
    simp [KeyMap.serveAll]
  | cons line rest ih =>
    rw [List.map_cons]
    simp only [KeyMap.serveAll, List.forall_mem_cons]
    cases read : Binding.parse line with
    | error error =>
      have unread : parseBinding line = .error (.invalidBinding line error) := by
        rw [parseBinding, read]
        rfl
      rw [bindAll_unread unread, keyMap.serve_unreadable read]
      constructor
      · intro done
        cases done
      · intro all
        exact absurd all.1.1 (not_accepted_error error)
    | ok binding =>
      have found : parseBinding line = .ok binding := by
        rw [parseBinding, read]
        rfl
      rw [bindAll_cons found, keyMap.serve_readable read]
      cases applied : binding.apply keyMap with
      | error error =>
        have refused : applyCommand keyMap binding = .error (.bindingRefused error) := by
          rw [applyCommand, applied]
          rfl
        -- The configuration may report a line behind this one, which cannot be read.
        rw [refused, keyMap.serve_of_apply_error applied]
        constructor
        · intro done
          obtain ⟨_, -, done⟩ := exists_ok_of_bind done
          cases done
        · intro all
          exact absurd all.1.1 (not_accepted_error error)
      | ok bound =>
        obtain ⟨key, written⟩ := bound
        have next : applyCommand keyMap binding = .ok written := by
          rw [applyCommand, applied]
          rfl
        rw [next, keyMap.serve_of_apply_ok applied]
        change bindAll rest written = .ok final ↔ _
        have accepted : Accepted (Except.ok key : Except BindingError KeyCode) := rfl
        rw [ih written, and_iff_right accepted]

theorem keyMap_eq_bindAll (configuration : Configuration) :
    configuration.keyMap = bindAll configuration.bindings .empty :=
  rfl

end Configuration

/-! ## The console -/

/-- The first word of the line starts as the commands do that bind keys. -/
def IsBindingLine (line : String) : Prop :=
  ∃ command arguments, Text.words line = command :: arguments ∧ "map-".toList <+: command.toList

theorem ConsoleCommand.ofWords_of_isPrefix {command : String} (starts : "map-".toList <+: command.toList)
    (arguments : List String) :
    ofWords command arguments =
      ((Binding.ofWords (command :: arguments)).map bind).mapError .binding := by
  unfold ofWords
  split
  case h_6 =>
    rw [if_pos (List.isPrefixOf_iff_prefix.mpr starts)]
    cases Binding.ofWords (command :: arguments) <;> rfl
  all_goals exact absurd starts (by decide)

theorem ConsoleCommand.parse_of_isBindingLine {line : String} (isBinding : IsBindingLine line) :
    parse line = (((Binding.parse line).map bind).mapError .binding).map some := by
  obtain ⟨command, arguments, words, starts⟩ := isBinding
  -- Only the console has comments, and this line is none.
  have uncommented : command.toList.head? ≠ some '#' := by
    obtain ⟨rest, written⟩ := starts
    rw [← written]
    exact nofun
  rw [parse, Binding.parse, words, ← ofWords_of_isPrefix starts arguments]
  exact if_neg uncommented

namespace Console

def withKeyMap (console : Console) (keyMap : KeyMap) : Console :=
  { console with
    host := { console.host with registry := { console.host.registry with keyMap } } }

variable (console : Console)

theorem bind_served (binding : Binding) :
    (console.bind binding).1.isOk = (console.host.registry.keyMap.serve (.given binding)).1.isOk ∧
      (console.bind binding).2 =
        console.withKeyMap (console.host.registry.keyMap.serve (.given binding)).2 := by
  unfold bind Host.bind
  cases applied : binding.apply console.host.registry.keyMap with
  | error error =>
    rw [KeyMap.serve_of_apply_error _ applied]
    exact ⟨rfl, rfl⟩
  | ok bound =>
    rw [KeyMap.serve_of_apply_ok _ applied]
    exact ⟨rfl, rfl⟩

theorem execute_served {line : String} (isBinding : IsBindingLine line) :
    (console.execute line).1.isOk = (console.host.registry.keyMap.serve (.line line)).1.isOk ∧
      (console.execute line).2 =
        console.withKeyMap (console.host.registry.keyMap.serve (.line line)).2 := by
  have parsed := ConsoleCommand.parse_of_isBindingLine isBinding
  unfold execute
  cases read : Binding.parse line with
  | error error =>
    rw [read] at parsed
    rw [parsed, KeyMap.serve_unreadable _ read]
    exact ⟨rfl, rfl⟩
  | ok binding =>
    rw [read] at parsed
    rw [parsed, KeyMap.serve_readable _ read]
    exact console.bind_served binding

theorem executeAll_served (lines : List String) (areBindings : ∀ line ∈ lines, IsBindingLine line) :
    (console.executeAll lines).1.map Except.isOk =
        (KeyMap.serveAll (lines.map .line) console.host.registry.keyMap).1.map Except.isOk ∧
      (console.executeAll lines).2 =
        console.withKeyMap (KeyMap.serveAll (lines.map .line) console.host.registry.keyMap).2 := by
  induction lines generalizing console with
  | nil => exact ⟨rfl, rfl⟩
  | cons line rest ih =>
    rw [List.forall_mem_cons] at areBindings
    obtain ⟨answered, changed⟩ := console.execute_served areBindings.1
    obtain ⟨answers, after⟩ := ih (console.execute line).2 areBindings.2
    rw [changed] at answers after
    constructor
    · simp only [executeAll, KeyMap.serveAll, List.map_cons, answered, changed]
      rw [answers]
      rfl
    · simp only [executeAll, KeyMap.serveAll, List.map_cons, changed]
      rw [after]
      rfl

/-- Binding lines give a configuration its key map exactly if the console, with no key bound so far,
accepts each of them in turn, and then its key map is the same afterwards. Typing them, accepted or
not, changes nothing in the console but its key map. -/
theorem typed_bindings_as_configured (configuration : Configuration) (console : Console)
    (fresh : console.host.registry.keyMap = .empty)
    (areBindings : ∀ line ∈ configuration.bindings, IsBindingLine line) :
    let (answers, after) := console.executeAll configuration.bindings
    ((∃ keyMap, configuration.keyMap = .ok keyMap) ↔ ∀ answer ∈ answers, Accepted answer) ∧
    (∀ keyMap, configuration.keyMap = .ok keyMap → after.host.registry.keyMap = keyMap) ∧
    after = console.withKeyMap after.host.registry.keyMap := by
  obtain ⟨answers, after⟩ := console.executeAll_served configuration.bindings areBindings
  rw [fresh] at answers after
  have built := Configuration.bindAll_eq_ok_iff configuration.bindings .empty
  rw [configuration.keyMap_eq_bindAll]
  refine ⟨?_, ?_, ?_⟩
  · rw [forall_accepted_iff answers]
    constructor
    · intro found
      obtain ⟨keyMap, done⟩ := found
      exact ((built keyMap).mp done).1
    · intro all
      exact ⟨_, (built _).mpr ⟨all, rfl⟩⟩
  · intro keyMap done
    rw [after]
    exact ((built keyMap).mp done).2
  · rw [after]
    rfl

theorem typed_bindings_with_open_session :
    let configuration : Configuration :=
      { bindings := ["\u3000map-dpad  U char w ", "map-button\t+02 name ENTER"] }
    let console := ((create (.create {} .empty)).executeAll ["attach 046d:c216 7"]).2
    let (answers, after) := console.executeAll configuration.bindings
    (console.host.registry.keyMap = .empty ∧
      ∀ line ∈ configuration.bindings, IsBindingLine line) ∧
    ((∃ keyMap, configuration.keyMap = .ok keyMap) ↔ ∀ answer ∈ answers, Accepted answer) ∧
    (∀ keyMap, configuration.keyMap = .ok keyMap → after.host.registry.keyMap = keyMap) ∧
    after = console.withKeyMap after.host.registry.keyMap ∧
    answers.map Except.toOption =
      [some ["mapped dpad up to 0x77 'w'"], some ["mapped button 2 to 0x0a"]] := by
  intro configuration console
  have fresh : console.host.registry.keyMap = .empty := rfl
  have areBindings : ∀ line ∈ configuration.bindings, IsBindingLine line := by
    rw [List.forall_mem_cons, List.forall_mem_singleton]
    exact ⟨⟨"map-dpad", ["U", "char", "w"], rfl, by decide⟩,
      ⟨"map-button", ["+02", "name", "ENTER"], rfl, by decide⟩⟩
  obtain ⟨agree, same, kept⟩ := typed_bindings_as_configured configuration console fresh areBindings
  exact ⟨⟨fresh, areBindings⟩, agree, same, kept, by decide +kernel⟩

end Console

end Gamepad
