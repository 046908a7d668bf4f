import Gamepad.Proofs.BindingGrammar

/-!
Calls that bind a key without a line. The words that name the control are given to the call one by
one, and the key is given as it is. Main statement: a call does what the line does that is made of
its words.
-/

namespace Gamepad

inductive BindingCall
  | dpad (direction : String)
  | button (index : String)
  | bumper (side : String)
  | trigger (side : String)
  | stick (side direction : String)
  | stickPress (side : String)
  | option (side : String)

namespace BindingCall

open Binding (parseDirection parseButton parseSide)

def make (call : BindingCall) (spec : KeySpec) (keyMap : KeyMap) :
    Except BindingError (KeyCode × KeyMap) :=
  match call with
  | dpad direction => keyMap.bindDpad direction spec
  | button index => keyMap.bindButton index spec
  | bumper side => keyMap.bindBumper side spec
  | trigger side => keyMap.bindTrigger side spec
  | stick side direction => keyMap.bindStick side direction spec
  | stickPress side => keyMap.bindStickPress side spec
  | option side => keyMap.bindOption side spec

def command : BindingCall → String
  | dpad _ => "map-dpad"
  | button _ => "map-button"
  | bumper _ => "map-bumper"
  | trigger _ => "map-trigger"
  | stick _ _ => "map-stick"
  | stickPress _ => "map-stick-press"
  | option _ => "map-option"

def texts : BindingCall → List String
  | dpad direction => [direction]
  | button index => [index]
  | bumper side => [side]
  | trigger side => [side]
  | stick side direction => [side, direction]
  | stickPress side => [side]
  | option side => [side]

def line (call : BindingCall) (spec : KeySpec) : String :=
  " ".intercalate (call.command :: call.texts ++ [spec.text])

/-- The control that the words name. Of two words at fault the first is reported. -/
def control : BindingCall → Except BindingError Control
  | dpad direction => return .dpad (← parseDirection direction)
  | button index => return .button (← parseButton index)
  | bumper side => return .bumper (← parseSide side)
  | trigger side => return .trigger (← parseSide side)
  | stick side direction => do
    let side ← parseSide side
    return .stick side (← parseDirection direction)
  | stickPress side => return .stickPress (← parseSide side)
  | option side => return .option (← parseSide side)

theorem make_eq (call : BindingCall) (spec : KeySpec) (keyMap : KeyMap) :
    call.make spec keyMap =
      call.control >>= fun control => Binding.apply { control, spec } keyMap := by
  cases call with
  | dpad direction => simp only [make, KeyMap.bindDpad, control, bind_assoc, pure_bind]
  | button index => simp only [make, KeyMap.bindButton, control, bind_assoc, pure_bind]
  | bumper side => simp only [make, KeyMap.bindBumper, control, bind_assoc, pure_bind]
  | trigger side => simp only [make, KeyMap.bindTrigger, control, bind_assoc, pure_bind]
  | stick side direction => simp only [make, KeyMap.bindStick, control, bind_assoc, pure_bind]
  | stickPress side => simp only [make, KeyMap.bindStickPress, control, bind_assoc, pure_bind]
  | option side => simp only [make, KeyMap.bindOption, control, bind_assoc, pure_bind]

theorem take_cons {α β : Type} (label text : String) (read : String → Except BindingError α)
    (rest : List String) (next : α × List String → Except BindingError β) :
    Binding.take label read (text :: rest) >>= next = read text >>= fun value => next (value, rest) := by
  rw [Binding.take]
  cases read text <;> rfl

theorem takeControl_texts (call : BindingCall) (rest : List String) :
    Binding.takeControl call.command (call.texts ++ rest) =
      call.control >>= fun control => pure (control, rest) := by
  cases call <;>
    simp only [Binding.takeControl, command, texts, List.cons_append, List.nil_append, take_cons,
      control, bind_assoc, pure_bind]

theorem isWord_command (call : BindingCall) : Text.IsWord call.command := by
  cases call <;> (simp only [command]; decide)

theorem words_line (call : BindingCall) (spec : KeySpec)
    (areWords : ∀ text ∈ call.texts, Text.IsWord text) (writable : spec.Writable) :
    Text.words (call.line spec) =
      call.command :: (call.texts ++ [spec.words.1, spec.words.2]) := by
  rw [Text.words_eq_iff]
  have text : spec.text = spec.words.1 ++ " " ++ spec.words.2 := rfl
  rw [line, text, Text.intercalate_concat]
  apply Text.layout_intercalate
  exact List.forall_mem_cons.mpr ⟨call.isWord_command,
    List.forall_mem_append.mpr ⟨areWords, spec.isWord_of_writable writable⟩⟩

theorem parse_line (call : BindingCall) (spec : KeySpec)
    (areWords : ∀ text ∈ call.texts, Text.IsWord text) (writable : spec.Writable) :
    Binding.parse (call.line spec) = call.control >>= fun control => pure { control, spec } := by
  have asked := (Binding.parseSpec_eq_ok_iff _ spec).mpr spec.askedBy_words
  rw [Binding.parse, call.words_line spec areWords writable]
  simp only [Binding.ofWords, takeControl_texts, bind_assoc, pure_bind, asked]
  rfl

/-- A call whose words can stand in a line, whether they name a control or not, does what the line
does that is made of the command, of these words and of the text of the key: it gives the same key
with the same key map, or it is refused for the same reason. -/
theorem call_as_line (call : BindingCall) (spec : KeySpec) (keyMap : KeyMap)
    (areWords : ∀ text ∈ call.texts, Text.IsWord text) (writable : spec.Writable) :
    call.make spec keyMap =
      Binding.parse (call.line spec) >>= fun binding => binding.apply keyMap := by
  rw [call.make_eq, call.parse_line spec areWords writable, bind_assoc]
  simp only [pure_bind]

theorem call_as_line_at_fault :
    let call := stick "right" "north"
    let spec := KeySpec.name "hyper"
    ((∀ text ∈ call.texts, Text.IsWord text) ∧ spec.Writable) ∧
      call.line spec = "map-stick right north name hyper" ∧
      call.make spec .empty =
        (Binding.parse (call.line spec) >>= fun binding => binding.apply .empty) ∧
      call.make spec .empty = .error (.unknownDirection "north") := by
  intro call spec
  have areWords : ∀ text ∈ call.texts, Text.IsWord text := by decide
  have writable : spec.Writable := by
    change Text.IsWord "hyper"
    decide
  exact ⟨⟨areWords, writable⟩, by decide, call_as_line call spec .empty areWords writable, rfl⟩

end BindingCall

end Gamepad
