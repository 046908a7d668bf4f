import Gamepad.Proofs.ConfiguredBindings
import Gamepad.Proofs.WordLayout

/-!
The language of the commands that bind keys. A command is refused for the first thing that is wrong
with it; only a word too many comes before a key that cannot be read. Main statement: a line is
accepted exactly if its words are in the language, it is refused for exactly that reason, and a
binding whose words can stand in a line is read back from its line.
-/

namespace Gamepad

/-! ## Words that stand for values -/

def Direction.CalledBy (direction : Direction) (text : String) : Prop :=
  Text.lower text ∈ direction.name :: direction.aliases

theorem Direction.find?_of_mem_names (direction : Direction) :
    ∀ name ∈ direction.name :: direction.aliases,
      all.find? (fun other => name ∈ other.name :: other.aliases) = some direction := by
  cases direction <;> decide

theorem Direction.ofName?_eq_some_iff (text : String) (direction : Direction) :
    ofName? text = some direction ↔ direction.CalledBy text := by
  constructor
  · intro found
    simpa [CalledBy] using List.find?_some found
  · exact direction.find?_of_mem_names (Text.lower text)

theorem Direction.calledBy_name (direction : Direction) : direction.CalledBy direction.name :=
  (ofName?_eq_some_iff direction.name direction).mp direction.ofName?_name

theorem Side.ofName?_eq_some_iff (text : String) (side : Side) :
    ofName? text = some side ↔ text = side.name := by
  constructor
  · intro found
    have named := List.find?_some found
    exact (of_decide_eq_true named).symm
  · intro named
    rw [named, side.ofName?_name]

/-- The words name the control: first the command, then its arguments. -/
inductive Control.NamedBy : Control → List String → Prop
  | dpad {direction : Direction} {text : String} (called : direction.CalledBy text) :
    NamedBy (.dpad direction) ["map-dpad", text]
  | button {index : Nat} {text : String} (numeral : Text.Numeral text index) (onPad : index < 4) :
    NamedBy (.button index) ["map-button", text]
  | bumper (side : Side) : NamedBy (.bumper side) ["map-bumper", side.name]
  | trigger (side : Side) : NamedBy (.trigger side) ["map-trigger", side.name]
  | stick (side : Side) {direction : Direction} {text : String} (called : direction.CalledBy text) :
    NamedBy (.stick side direction) ["map-stick", side.name, text]
  | stickPress (side : Side) : NamedBy (.stickPress side) ["map-stick-press", side.name]
  | option (side : Side) : NamedBy (.option side) ["map-option", side.name]

inductive KeySpec.AskedBy : KeySpec → List String → Prop
  | code {value : UInt32} {text : String} (numeral : Text.Numeral text value.toNat) :
    AskedBy (.code value) ["code", text]
  | char (c : Char) : AskedBy (.char c) ["char", String.singleton c]
  | name (text : String) : AskedBy (.name text) ["name", text]

def Binding.WrittenAs (binding : Binding) (words : List String) : Prop :=
  ∃ control spec, binding.control.NamedBy control ∧ binding.spec.AskedBy spec ∧
    words = control ++ spec

/-! ## Words that are refused -/

inductive Argument
  | direction
  | button
  | side

namespace Argument

def label : Argument → String
  | direction => "direction"
  | button => "button index"
  | side => "side"

def Accepts : Argument → String → Prop
  | .direction, text => ∃ direction : Direction, direction.CalledBy text
  | .button, text => ∃ index, Text.Numeral text index ∧ index < 4
  | .side, text => ∃ side : Side, text = side.name

inductive Refuses : Argument → String → BindingError → Prop
  | direction {text : String} (unknown : ∀ direction : Direction, ¬direction.CalledBy text) :
    Refuses .direction text (.unknownDirection text)
  | offPad {text : String} {index : UInt32} (numeral : Text.Numeral text index.toNat)
      (offPad : ¬index < 4) : Refuses .button text (.buttonOutOfRange index)
  | button {text : String} (invalid : ∀ index : UInt32, ¬Text.Numeral text index.toNat) :
    Refuses .button text (.invalidButton text)
  | side {text : String} (unknown : ∀ side : Side, text ≠ side.name) :
    Refuses .side text (.unknownSide text)

/-- An argument is missing or is refused, and those before it are accepted. -/
inductive Faulty : List Argument → List String → BindingError → Prop
  | missing (argument : Argument) (later : List Argument) :
    Faulty (argument :: later) [] (.missingArgument argument.label)
  | here {argument : Argument} {text : String} {error : BindingError}
      (refuses : argument.Refuses text error) (later : List Argument) (rest : List String) :
    Faulty (argument :: later) (text :: rest) error
  | there {argument : Argument} {text : String} {later : List Argument} {rest : List String}
      {error : BindingError} (accepts : argument.Accepts text) (faulty : Faulty later rest error) :
    Faulty (argument :: later) (text :: rest) error

end Argument

def Binding.arguments? : String → Option (List Argument)
  | "map-dpad" => some [.direction]
  | "map-button" => some [.button]
  | "map-bumper" => some [.side]
  | "map-trigger" => some [.side]
  | "map-stick" => some [.side, .direction]
  | "map-stick-press" => some [.side]
  | "map-option" => some [.side]
  | _ => none

inductive KeySpec.Refused : List String → BindingError → Prop
  | noKind : Refused [] (.missingArgument "key spec type")
  | noValue (kind : String) : Refused [kind] (.missingArgument "key spec value")
  | surplus (kind value extra : String) (rest : List String) :
    Refused (kind :: value :: extra :: rest) (.unexpectedArgument extra)
  | code {text : String} (invalid : ∀ value : UInt32, ¬Text.Numeral text value.toNat) :
    Refused ["code", text] (.invalidKeyCode text)
  | char {text : String} (invalid : ∀ c, text ≠ String.singleton c) :
    Refused ["char", text] (.invalidChar text)
  | kind {kind : String} (unknown : kind ∉ ["code", "char", "name"]) (value : String) :
    Refused [kind, value] (.unknownKeyKind kind)

/-- The first thing that is wrong with the words. -/
inductive Binding.Refused : List String → BindingError → Prop
  | empty : Refused [] (.missingArgument "command")
  | command {command : String} (unknown : arguments? command = none) (rest : List String) :
    Refused (command :: rest) (.unknownCommand command)
  | argument {command : String} {arguments : List Argument} {rest : List String}
      {error : BindingError} (known : arguments? command = some arguments)
      (faulty : Argument.Faulty arguments rest error) : Refused (command :: rest) error
  | spec {control : Control} {words rest : List String} {error : BindingError}
      (named : control.NamedBy words) (refused : KeySpec.Refused rest error) :
    Refused (words ++ rest) error

/-! ## One word -/

namespace Binding

theorem parseDirection_eq_ok_iff (text : String) (direction : Direction) :
    parseDirection text = .ok direction ↔ direction.CalledBy text := by
  rw [← Direction.ofName?_eq_some_iff, parseDirection]
  cases Direction.ofName? text <;> simp

theorem parseDirection_eq_error_iff (text : String) (error : BindingError) :
    parseDirection text = .error error ↔ Argument.Refuses .direction text error := by
  have refused : parseDirection text = .error error ↔
      (∀ direction : Direction, ¬direction.CalledBy text) ∧ error = .unknownDirection text := by
    simp only [← Direction.ofName?_eq_some_iff, parseDirection]
    cases Direction.ofName? text <;> simp [eq_comm]
  rw [refused]
  constructor
  · intro both
    obtain ⟨unknown, rfl⟩ := both
    exact .direction unknown
  · intro refuses
    cases refuses with
    | direction unknown => exact ⟨unknown, rfl⟩

theorem parseSide_eq_ok_iff (text : String) (side : Side) :
    parseSide text = .ok side ↔ text = side.name := by
  rw [← Side.ofName?_eq_some_iff, parseSide]
  cases Side.ofName? text <;> simp

theorem parseSide_eq_error_iff (text : String) (error : BindingError) :
    parseSide text = .error error ↔ Argument.Refuses .side text error := by
  have refused : parseSide text = .error error ↔
      (∀ side : Side, text ≠ side.name) ∧ error = .unknownSide text := by
    simp only [ne_eq, ← Side.ofName?_eq_some_iff, parseSide]
    cases Side.ofName? text <;> simp [eq_comm]
  rw [refused]
  constructor
  · intro both
    obtain ⟨unknown, rfl⟩ := both
    exact .side unknown
  · intro refuses
    cases refuses with
    | side unknown => exact ⟨unknown, rfl⟩

theorem parseButton_eq_ok_iff (text : String) (index : Nat) :
    parseButton text = .ok index ↔ Text.Numeral text index ∧ index < 4 := by
  constructor
  · intro read
    have onPad := lt_of_parseButton read
    unfold parseButton at read
    split at read
    next word found =>
      split at read
      next small =>
        cases read
        exact ⟨(Text.readUInt32_eq_some_iff text word).mp found, onPad⟩
      next => cases read
    next => cases read
  · intro both
    obtain ⟨numeral, onPad⟩ := both
    have fits : index < UInt32.size := Nat.lt_trans onPad (by decide)
    have value : (UInt32.ofNat index).toNat = index := UInt32.toNat_ofNat_of_lt' fits
    have found := (Text.readUInt32_eq_some_iff text (.ofNat index)).mpr (value.symm ▸ numeral)
    have small : UInt32.ofNat index < 4 := UInt32.lt_iff_toNat_lt.mpr (value.symm ▸ onPad)
    simp only [parseButton, found, if_pos small, value]

theorem parseButton_eq_error_iff (text : String) (error : BindingError) :
    parseButton text = .error error ↔ Argument.Refuses .button text error := by
  have found := Text.readUInt32_eq_some_iff text
  unfold parseButton
  cases read : Text.readUInt32 text with
  | none =>
    have invalid : ∀ index : UInt32, ¬Text.Numeral text index.toNat := fun index numeral => by
      have impossible := (found index).mpr numeral
      rw [read] at impossible
      cases impossible
    constructor
    · intro refused
      cases refused
      exact .button invalid
    · intro refuses
      cases refuses with
      | offPad numeral => exact absurd numeral (invalid _)
      | button => rfl
  | some index =>
    have numeral := (found index).mp read
    constructor
    · intro refused
      dsimp only at refused
      split at refused
      next => cases refused
      next offPad =>
        cases refused
        exact .offPad numeral offPad
    · intro refuses
      cases refuses with
      | offPad other offPad =>
        have same := (found _).mpr other
        rw [read] at same
        cases same
        exact if_neg offPad
      | button invalid => exact absurd numeral (invalid index)

structure ReadBy {α : Type} (argument : Argument) (read : String → Except BindingError α) : Prop where
  accepts : ∀ text, argument.Accepts text ↔ ∃ value, read text = .ok value
  refuses : ∀ text error, read text = .error error ↔ argument.Refuses text error

theorem readBy_direction : ReadBy .direction parseDirection where
  accepts text := by simp only [Argument.Accepts, parseDirection_eq_ok_iff]
  refuses := parseDirection_eq_error_iff

theorem readBy_button : ReadBy .button parseButton where
  accepts text := by simp only [Argument.Accepts, parseButton_eq_ok_iff]
  refuses := parseButton_eq_error_iff

theorem readBy_side : ReadBy .side parseSide where
  accepts text := by simp only [Argument.Accepts, parseSide_eq_ok_iff]
  refuses := parseSide_eq_error_iff

/-! ## The control -/

section Take

variable {α β : Type} {label : String} {read : String → Except BindingError α}
  {next : α × List String → Except BindingError β} {texts : List String}

theorem exists_of_take_ok {result : β} (done : take label read texts >>= next = .ok result) :
    ∃ text value rest, texts = text :: rest ∧ read text = .ok value ∧
      next (value, rest) = .ok result := by
  obtain ⟨⟨value, rest⟩, taken, done⟩ := exists_ok_of_bind done
  obtain ⟨text, written, found⟩ := take_eq_ok taken
  exact ⟨text, value, rest, written, found, done⟩

theorem take_of_ok {text : String} {value : α} (found : read text = .ok value)
    (rest : List String) : take label read (text :: rest) >>= next = next (value, rest) := by
  rw [take, found]
  rfl

theorem take_eq_error_iff {argument : Argument} (readBy : ReadBy argument read)
    (later : List Argument) (error : BindingError)
    (goesOn : ∀ value rest,
      next (value, rest) = .error error ↔ Argument.Faulty later rest error) :
    take argument.label read texts >>= next = .error error ↔
      Argument.Faulty (argument :: later) texts error := by
  cases texts with
  | nil =>
    constructor
    · intro missing
      cases missing
      exact .missing argument later
    · intro faulty
      cases faulty
      rfl
  | cons text rest =>
    have refuses := readBy.refuses text error
    cases found : read text with
    | ok value =>
      have accepts := (readBy.accepts text).mpr ⟨value, found⟩
      rw [take_of_ok found, goesOn]
      rw [found] at refuses
      constructor
      · exact .there accepts
      · intro faulty
        cases faulty with
        | here refused => exact nomatch refuses.mpr refused
        | there _ faulty => exact faulty
    | error reason =>
      have failed : take argument.label read (text :: rest) >>= next = .error reason := by
        rw [take, found]
        rfl
      rw [found, Except.error.injEq] at refuses
      rw [failed, Except.error.injEq, refuses]
      constructor
      · exact fun refused => .here refused later rest
      · intro faulty
        cases faulty with
        | here refused => exact refused
        | there accepts =>
          obtain ⟨value, accepted⟩ := (readBy.accepts text).mp accepts
          rw [found] at accepted
          cases accepted

theorem faulty_nil_iff (rest : List String) (error : BindingError) (result : β) :
    (pure result : Except BindingError β) = .error error ↔ Argument.Faulty [] rest error :=
  ⟨nofun, nofun⟩

theorem exists_direction_of_take_ok {next : Direction × List String → Except BindingError β}
    {result : β} (done : take label parseDirection texts >>= next = .ok result) :
    ∃ text direction rest, texts = text :: rest ∧ direction.CalledBy text ∧
      next (direction, rest) = .ok result := by
  obtain ⟨text, direction, rest, written, read, done⟩ := exists_of_take_ok done
  exact ⟨text, direction, rest, written, (parseDirection_eq_ok_iff text direction).mp read, done⟩

theorem exists_side_of_take_ok {next : Side × List String → Except BindingError β}
    {result : β} (done : take label parseSide texts >>= next = .ok result) :
    ∃ (side : Side) (rest : List String), texts = side.name :: rest ∧
      next (side, rest) = .ok result := by
  obtain ⟨text, side, rest, written, read, done⟩ := exists_of_take_ok done
  have named := (parseSide_eq_ok_iff text side).mp read
  exact ⟨side, rest, named ▸ written, done⟩

end Take

theorem takeControl_eq_ok_iff (command : String) (texts rest : List String) (control : Control) :
    takeControl command texts = .ok (control, rest) ↔
      ∃ first, control.NamedBy (command :: first) ∧ texts = first ++ rest := by
  constructor
  · intro taken
    unfold takeControl at taken
    split at taken
    · obtain ⟨text, direction, later, rfl, called, done⟩ := exists_direction_of_take_ok taken
      cases done
      exact ⟨[text], .dpad called, rfl⟩
    · obtain ⟨text, index, later, rfl, read, done⟩ := exists_of_take_ok taken
      obtain ⟨numeral, onPad⟩ := (parseButton_eq_ok_iff text index).mp read
      cases done
      exact ⟨[text], .button numeral onPad, rfl⟩
    · obtain ⟨side, later, rfl, done⟩ := exists_side_of_take_ok taken
      cases done
      exact ⟨[side.name], .bumper side, rfl⟩
    · obtain ⟨side, later, rfl, done⟩ := exists_side_of_take_ok taken
      cases done
      exact ⟨[side.name], .trigger side, rfl⟩
    · obtain ⟨side, later, rfl, done⟩ := exists_side_of_take_ok taken
      obtain ⟨text, direction, last, rfl, called, done⟩ := exists_direction_of_take_ok done
      cases done
      exact ⟨[side.name, text], .stick side called, rfl⟩
    · obtain ⟨side, later, rfl, done⟩ := exists_side_of_take_ok taken
      cases done
      exact ⟨[side.name], .stickPress side, rfl⟩
    · obtain ⟨side, later, rfl, done⟩ := exists_side_of_take_ok taken
      cases done
      exact ⟨[side.name], .option side, rfl⟩
    · cases taken
  · intro written
    obtain ⟨first, named, rfl⟩ := written
    have sides := fun side : Side => (parseSide_eq_ok_iff side.name side).mpr rfl
    cases named with
    | dpad called => exact take_of_ok ((parseDirection_eq_ok_iff _ _).mpr called) rest
    | button numeral onPad => exact take_of_ok ((parseButton_eq_ok_iff _ _).mpr ⟨numeral, onPad⟩) rest
    | bumper side => exact take_of_ok (sides side) rest
    | trigger side => exact take_of_ok (sides side) rest
    | @stick side direction text called =>
      exact (take_of_ok (sides side) (text :: rest)).trans
        (take_of_ok ((parseDirection_eq_ok_iff _ _).mpr called) rest)
    | stickPress side => exact take_of_ok (sides side) rest
    | option side => exact take_of_ok (sides side) rest

theorem takeControl_of_unknown {command : String} (unknown : arguments? command = none)
    (texts : List String) : takeControl command texts = .error (.unknownCommand command) := by
  unfold takeControl
  split
  case h_8 => rfl
  all_goals cases unknown

theorem takeControl_eq_error_iff {command : String} {arguments : List Argument}
    (known : arguments? command = some arguments) (texts : List String) (error : BindingError) :
    takeControl command texts = .error error ↔ Argument.Faulty arguments texts error := by
  have stop {α : Type} (result : α) (rest : List String) := faulty_nil_iff rest error result
  unfold arguments? at known
  split at known
  · cases known
    exact take_eq_error_iff readBy_direction [] error fun _ rest => stop _ rest
  · cases known
    exact take_eq_error_iff readBy_button [] error fun _ rest => stop _ rest
  · cases known
    exact take_eq_error_iff readBy_side [] error fun _ rest => stop _ rest
  · cases known
    exact take_eq_error_iff readBy_side [] error fun _ rest => stop _ rest
  · cases known
    exact take_eq_error_iff readBy_side [.direction] error fun side rest =>
      take_eq_error_iff readBy_direction [] error fun _ rest => stop _ rest
  · cases known
    exact take_eq_error_iff readBy_side [] error fun _ rest => stop _ rest
  · cases known
    exact take_eq_error_iff readBy_side [] error fun _ rest => stop _ rest
  · cases known

/-! ## The key -/

theorem toList_eq_singleton_iff (text : String) (c : Char) :
    text.toList = [c] ↔ text = String.singleton c := by
  rw [← String.toList_singleton, String.toList_inj]

theorem parseSpec_eq_ok_iff (words : List String) (spec : KeySpec) :
    parseSpec words = .ok spec ↔ spec.AskedBy words := by
  constructor
  · intro read
    unfold parseSpec at read
    split at read
    · cases read
    · cases read
    next kind value =>
      unfold KeySpec.parse at read
      split at read
      · split at read
        next number found =>
          cases read
          exact .code ((Text.readUInt32_eq_some_iff value number).mp found)
        next => cases read
      · split at read
        next c alone =>
          cases read
          obtain rfl := (toList_eq_singleton_iff value c).mp alone
          exact .char c
        next => cases read
      · cases read
        exact .name value
      · cases read
    · cases read
  · intro asked
    cases asked with
    | @code value text numeral =>
      have found := (Text.readUInt32_eq_some_iff text value).mpr numeral
      simp only [parseSpec, KeySpec.parse, found]
    | char c => simp only [parseSpec, KeySpec.parse, String.toList_singleton]
    | name text => rfl

theorem parseSpec_eq_error_iff (words : List String) (error : BindingError) :
    parseSpec words = .error error ↔ KeySpec.Refused words error := by
  constructor
  · intro read
    unfold parseSpec at read
    split at read
    · cases read
      exact .noKind
    next kind =>
      cases read
      exact .noValue kind
    next kind value =>
      unfold KeySpec.parse at read
      split at read
      · split at read
        next => cases read
        next missing =>
          cases read
          refine .code fun number numeral => ?_
          have found := (Text.readUInt32_eq_some_iff value number).mpr numeral
          rw [missing] at found
          cases found
      · split at read
        next => cases read
        next many =>
          cases read
          exact .char fun c single => many c ((toList_eq_singleton_iff value c).mpr single)
      · cases read
      next noCode noChar noName =>
        cases read
        exact .kind (by simpa using ⟨noCode, noChar, noName⟩) value
    next kind value extra rest =>
      cases read
      exact .surplus kind value extra rest
  · intro refused
    cases refused with
    | noKind => rfl
    | noValue kind => rfl
    | surplus kind value extra rest => rfl
    | @code text invalid =>
      have missing : Text.readUInt32 text = none := by
        cases found : Text.readUInt32 text with
        | none => rfl
        | some number =>
          exact absurd ((Text.readUInt32_eq_some_iff text number).mp found) (invalid number)
      simp only [parseSpec, KeySpec.parse, missing]
    | @char text invalid =>
      simp only [parseSpec, KeySpec.parse]
      split
      next c alone => exact absurd ((toList_eq_singleton_iff text c).mp alone) (invalid c)
      next => rfl
    | @kind kind unknown value =>
      have others : kind ≠ "code" ∧ kind ≠ "char" ∧ kind ≠ "name" := by simpa using unknown
      simp only [parseSpec, KeySpec.parse]
      split
      · exact absurd rfl others.1
      · exact absurd rfl others.2.1
      · exact absurd rfl others.2.2
      · rfl

/-! ## The words of a command -/

theorem ofWords_of_error {command : String} {texts : List String} {error : BindingError}
    (refused : takeControl command texts = .error error) :
    ofWords (command :: texts) = .error error := by
  simp only [ofWords, refused]
  rfl

theorem ofWords_of_taken {command : String} {texts rest : List String} {control : Control}
    (taken : takeControl command texts = .ok (control, rest)) :
    ofWords (command :: texts) = (parseSpec rest).map fun spec => { control, spec } := by
  simp only [ofWords, taken]
  change (parseSpec rest >>= fun spec => pure (Binding.mk control spec)) = _
  cases parseSpec rest <;> rfl

theorem ofWords_of_named {control : Control} {words : List String} (named : control.NamedBy words)
    (rest : List String) :
    ofWords (words ++ rest) = (parseSpec rest).map fun spec => { control, spec } := by
  obtain ⟨command, first, rfl⟩ : ∃ command first, words = command :: first := by
    cases named <;> exact ⟨_, _, rfl⟩
  exact ofWords_of_taken ((takeControl_eq_ok_iff command _ rest control).mpr ⟨first, named, rfl⟩)

theorem ofWords_cases (words : List String) :
    (∃ error, Refused words error ∧ ofWords words = .error error) ∨
      ∃ binding : Binding, binding.WrittenAs words ∧ ofWords words = .ok binding := by
  cases words with
  | nil => exact .inl ⟨_, .empty, rfl⟩
  | cons command texts =>
    cases taken : takeControl command texts with
    | error error =>
      have read := ofWords_of_error taken
      cases known : arguments? command with
      | none =>
        rw [takeControl_of_unknown known] at taken
        cases taken
        exact .inl ⟨_, .command known texts, read⟩
      | some arguments =>
        have faulty := (takeControl_eq_error_iff known texts error).mp taken
        exact .inl ⟨error, .argument known faulty, read⟩
    | ok result =>
      obtain ⟨control, rest⟩ := result
      obtain ⟨first, named, rfl⟩ := (takeControl_eq_ok_iff command texts rest control).mp taken
      have read := ofWords_of_named named rest
      cases parsed : parseSpec rest with
      | error error =>
        have refused := (parseSpec_eq_error_iff rest error).mp parsed
        rw [parsed] at read
        exact .inl ⟨error, .spec named refused, read⟩
      | ok spec =>
        have asked := (parseSpec_eq_ok_iff rest spec).mp parsed
        rw [parsed] at read
        exact .inr ⟨_, ⟨command :: first, rest, named, asked, rfl⟩, read⟩

theorem ofWords_eq_ok_iff (words : List String) (binding : Binding) :
    ofWords words = .ok binding ↔ binding.WrittenAs words := by
  constructor
  · intro read
    rcases ofWords_cases words with ⟨error, -, failed⟩ | ⟨other, written, done⟩
    · rw [read] at failed
      cases failed
    · rw [read] at done
      cases done
      exact written
  · intro written
    obtain ⟨first, last, named, asked, rfl⟩ := written
    rw [ofWords_of_named named, (parseSpec_eq_ok_iff last binding.spec).mpr asked]
    rfl

theorem ofWords_eq_error_iff (words : List String) (error : BindingError) :
    ofWords words = .error error ↔ Refused words error := by
  constructor
  · intro read
    rcases ofWords_cases words with ⟨reason, refused, failed⟩ | ⟨binding, -, done⟩
    · rw [read] at failed
      cases failed
      exact refused
    · rw [read] at done
      cases done
  · intro refused
    cases refused with
    | empty => rfl
    | command unknown rest => exact ofWords_of_error (takeControl_of_unknown unknown rest)
    | @argument command arguments rest _ known faulty =>
      exact ofWords_of_error ((takeControl_eq_error_iff known rest error).mpr faulty)
    | @spec control words rest _ named refused =>
      rw [ofWords_of_named named, (parseSpec_eq_error_iff rest error).mpr refused]
      rfl

end Binding

/-! ## Lines -/

def Control.words : Control → List String
  | .dpad direction => ["map-dpad", direction.name]
  | .button index => ["map-button", toString index]
  | .bumper side => ["map-bumper", side.name]
  | .trigger side => ["map-trigger", side.name]
  | .stick side direction => ["map-stick", side.name, direction.name]
  | .stickPress side => ["map-stick-press", side.name]
  | .option side => ["map-option", side.name]

theorem Control.namedBy_words (control : Control) (onPad : control.OnPad) :
    control.NamedBy control.words := by
  cases control with
  | dpad direction => exact .dpad direction.calledBy_name
  | button index => exact .button (Text.numeral_repr index) onPad
  | bumper side => exact .bumper side
  | trigger side => exact .trigger side
  | stick side direction => exact .stick side direction.calledBy_name
  | stickPress side => exact .stickPress side
  | option side => exact .option side

theorem Direction.isWord_name (direction : Direction) : Text.IsWord direction.name := by
  cases direction <;> decide

theorem Side.isWord_name (side : Side) : Text.IsWord side.name := by
  cases side <;> decide

theorem Control.isWord_of_mem_words (control : Control) :
    ∀ word ∈ control.words, Text.IsWord word := by
  have commands : ∀ command ∈ ["map-dpad", "map-button", "map-bumper", "map-trigger", "map-stick",
      "map-stick-press", "map-option"], Text.IsWord command := by decide
  simp only [List.forall_mem_cons] at commands
  obtain ⟨dpad, button, bumper, trigger, stick, stickPress, option, -⟩ := commands
  cases control with
  | dpad direction => simp [words, dpad, direction.isWord_name]
  | button index => simp [words, button, Text.isWord_repr]
  | bumper side => simp [words, bumper, side.isWord_name]
  | trigger side => simp [words, trigger, side.isWord_name]
  | stick side direction => simp [words, stick, side.isWord_name, direction.isWord_name]
  | stickPress side => simp [words, stickPress, side.isWord_name]
  | option side => simp [words, option, side.isWord_name]

namespace KeySpec

def Writable : KeySpec → Prop
  | .code _ => True
  | .char c => Text.isBlank c = false
  | .name text => Text.IsWord text

theorem askedBy_words (spec : KeySpec) : spec.AskedBy [spec.words.1, spec.words.2] := by
  cases spec with
  | code value => exact .code (Text.numeral_repr value.toNat)
  | char c => exact .char c
  | name text => exact .name text

theorem isWord_of_writable (spec : KeySpec) (writable : spec.Writable) :
    ∀ word ∈ [spec.words.1, spec.words.2], Text.IsWord word := by
  have kinds : ∀ kind ∈ ["code", "char", "name"], Text.IsWord kind := by decide
  simp only [List.forall_mem_cons] at kinds
  obtain ⟨code, char, name, -⟩ := kinds
  cases spec with
  | code value => simp [words, code, Text.isWord_repr]
  | char c =>
    have alone : Text.IsWord (String.singleton c) :=
      { filled := by simp
        solid := by simpa [Writable] using writable }
    simp [words, char, alone]
  | name text =>
    have isWord : Text.IsWord text := writable
    simp [words, name, isWord]

theorem writable_of_askedBy {spec : KeySpec} {words : List String} (asked : spec.AskedBy words)
    (areWords : ∀ word ∈ words, Text.IsWord word) : spec.Writable := by
  cases asked with
  | code => trivial
  | char c => simpa [Writable] using (areWords (String.singleton c) (by simp)).solid
  | name text => exact areWords text (by simp)

end KeySpec

namespace Binding

def line (binding : Binding) : String :=
  " ".intercalate (binding.control.words ++ [binding.spec.text])

theorem layout_line (binding : Binding) (writable : binding.spec.Writable) :
    Text.Layout binding.line.toList
      (binding.control.words ++ [binding.spec.words.1, binding.spec.words.2]) := by
  have text : binding.spec.text = binding.spec.words.1 ++ " " ++ binding.spec.words.2 := rfl
  rw [line, text, Text.intercalate_concat]
  apply Text.layout_intercalate
  exact List.forall_mem_append.mpr
    ⟨binding.control.isWord_of_mem_words, binding.spec.isWord_of_writable writable⟩

theorem parse_eq_ok_iff (line : String) (binding : Binding) :
    parse line = .ok binding ↔
      ∃ words, Text.Layout line.toList words ∧ binding.WrittenAs words := by
  rw [Text.exists_layout_iff line, parse, ofWords_eq_ok_iff]

theorem parse_eq_error_iff (line : String) (error : BindingError) :
    parse line = .error error ↔
      ∃ words, Text.Layout line.toList words ∧ Refused words error := by
  rw [Text.exists_layout_iff line (Refused · error), parse, ofWords_eq_error_iff]

theorem writable_of_parse {line : String} {binding : Binding} (read : parse line = .ok binding) :
    binding.spec.Writable := by
  obtain ⟨words, layout, first, last, -, asked, rfl⟩ := (parse_eq_ok_iff line binding).mp read
  have areWords := layout.isWord
  exact KeySpec.writable_of_askedBy asked fun word member =>
    areWords word (List.mem_append_right first member)

theorem parse_line_iff (binding : Binding) :
    parse binding.line = .ok binding ↔ binding.control.OnPad ∧ binding.spec.Writable := by
  constructor
  · exact fun read => ⟨onPad_of_parse read, writable_of_parse read⟩
  · intro both
    obtain ⟨onPad, writable⟩ := both
    have written : binding.WrittenAs (binding.control.words ++ _) :=
      ⟨_, _, binding.control.namedBy_words onPad, binding.spec.askedBy_words, rfl⟩
    exact (parse_eq_ok_iff binding.line binding).mpr ⟨_, binding.layout_line writable, written⟩

/-- A line is accepted exactly if its words are those of a command, and then as the binding that
they stand for, whatever blanks are around them. Any other line is refused for the first thing that
is wrong with it. A binding is read back from its own line exactly if its control is on the pad and
the value of its key is a word, as it is in every binding that was read. -/
theorem parse_accepts_grammar :
    (∀ line binding, parse line = .ok binding ↔
      ∃ words, Text.Layout line.toList words ∧ binding.WrittenAs words) ∧
    (∀ line error, parse line = .error error ↔
      ∃ words, Text.Layout line.toList words ∧ Refused words error) ∧
    ∀ binding : Binding,
      parse binding.line = .ok binding ↔ binding.control.OnPad ∧ binding.spec.Writable :=
  ⟨parse_eq_ok_iff, parse_eq_error_iff, parse_line_iff⟩

example : parse "  map-stick\tleft UR\u3000char w " =
    .ok { control := .stick .left .upRight, spec := .char 'w' } := by
  rfl

/-- A word too many comes before a value that is no character. -/
example : parse "map-dpad up char long more" = .error (.unexpectedArgument "more") := by
  rfl

end Binding

end Gamepad
