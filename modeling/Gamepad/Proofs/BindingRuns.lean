import Gamepad.Proofs.KeyCells

/-!
Requests to bind keys, served one after another. A refused request leaves the key map, and an
accepted one writes the cell of its control alone. Main statement: after any requests a cell holds
the key of the last accepted request for its control, or what it held from the start.
-/

namespace Gamepad

/-- A binding is asked for by a line, or it is given as it is; only the control of a line is known
to be on the pad. -/
inductive BindingRequest
  | line (text : String)
  | given (binding : Binding)

namespace BindingRequest

def read : BindingRequest → Except BindingError Binding
  | line text => Binding.parse text
  | given binding => .ok binding

def control? (request : BindingRequest) : Option Control :=
  request.read.toOption.map Binding.control

/-- Why a request is refused. An unknown key comes before a button that the pad does not have, and
the index of such a button is reported modulo the word size. -/
inductive RefusedFor (request : BindingRequest) : BindingError → Prop
  | unreadable {error : BindingError} (unread : request.read = .error error) :
    request.RefusedFor error
  | unknownKey {binding : Binding} {name : String} (read : request.read = .ok binding)
      (unknown : binding.spec.unknownName? = some name) : request.RefusedFor (.unknownKeyName name)
  | offPad {index : Nat} {spec : KeySpec}
      (read : request.read = .ok { control := .button index, spec })
      (known : spec.unknownName? = none) (outside : 4 ≤ index) :
    request.RefusedFor (.buttonOutOfRange (.ofNat index))

structure Binds (request : BindingRequest) (control : Control) (key : KeyCode) : Prop where
  read : ∃ spec, request.read = .ok { control, spec } ∧ spec.resolve = .ok key
  onPad : control.OnPad

theorem control?_of_read {request : BindingRequest} {binding : Binding}
    (read : request.read = .ok binding) : request.control? = some binding.control := by
  rw [control?, read]
  rfl

theorem Binds.control? {request : BindingRequest} {control : Control} {key : KeyCode}
    (binds : request.Binds control key) : request.control? = some control := by
  obtain ⟨spec, read, -⟩ := binds.read
  exact control?_of_read read

theorem Binds.not_refused {request : BindingRequest} {control : Control} {key : KeyCode}
    (binds : request.Binds control key) (error : BindingError) : ¬request.RefusedFor error := by
  obtain ⟨spec, read, resolved⟩ := binds.read
  intro refused
  cases refused with
  | unreadable unread =>
    rw [read] at unread
    cases unread
  | unknownKey same unknown =>
    rw [read] at same
    cases same
    rw [KeySpec.resolve_of_unknownName? unknown] at resolved
    cases resolved
  | offPad same known outside =>
    rw [read] at same
    cases same
    exact Nat.not_lt.mpr outside binds.onPad

theorem refused_or_binds (request : BindingRequest) :
    (∃ error, request.RefusedFor error) ∨ ∃ control key, request.Binds control key := by
  cases read : request.read with
  | error error => exact .inl ⟨error, .unreadable read⟩
  | ok binding =>
    obtain ⟨control, spec⟩ := binding
    -- The key is resolved before its cell is looked for.
    cases unknown : spec.unknownName? with
    | some name => exact .inl ⟨_, .unknownKey read unknown⟩
    | none =>
      obtain ⟨key, resolved⟩ := spec.resolve_eq_ok_iff.mpr unknown
      by_cases onPad : control.OnPad
      · exact .inr ⟨control, key, ⟨⟨spec, read, resolved⟩, onPad⟩⟩
      · cases control with
        | button index => exact .inl ⟨_, .offPad read unknown (Nat.not_lt.mp onPad)⟩
        | _ => exact absurd trivial onPad

end BindingRequest

namespace KeyMap

/-! ## Cells -/

variable (keyMap : KeyMap)

theorem get?_eq_none_iff (control : Control) :
    keyMap.get? control = none ↔ ∃ index, control = .button index ∧ 4 ≤ index := by
  constructor
  · intro absent
    cases control with
    | button index =>
      refine ⟨index, rfl, Nat.not_lt.mp fun inside => ?_⟩
      rw [keyMap.get?_of_onPad (.button index) inside] at absent
      cases absent
    | _ => cases absent
  · intro outside
    obtain ⟨index, rfl, past⟩ := outside
    cases held : keyMap.get? (.button index) with
    | none => rfl
    | some key => exact absurd (keyMap.onPad_of_get? held) (Nat.not_lt.mpr past)

theorem get?_write (control other : Control) (onPad : control.OnPad) (key : KeyCode) :
    (keyMap.write control key).get? other =
      if control = other then some key else keyMap.get? other := by
  by_cases otherOnPad : other.OnPad
  · rw [get?_of_onPad _ other otherOnPad, get?_of_onPad _ other otherOnPad,
      keyMap.key_write control other onPad key, apply_ite some]
  · have absent (held : KeyMap) : held.get? other = none := by
      cases found : held.get? other with
      | none => rfl
      | some key => exact absurd (held.onPad_of_get? found) otherOnPad
    have apart : control ≠ other := fun same => otherOnPad (same ▸ onPad)
    rw [absent, absent, if_neg apart]

/-- The accessors of a key map show what its cells hold, and a button without a cell is shown as
unbound. -/
structure Shows (keyMap : KeyMap) (held : Control → Option KeyCode) : Prop where
  dpad : ∀ direction, held (.dpad direction) = some (keyMap.dpadKey direction)
  button : ∀ index, (held (.button index)).getD .unbound = keyMap.buttonKey index
  bumper : ∀ side, held (.bumper side) = some (keyMap.bumperKey side)
  trigger : ∀ side, held (.trigger side) = some (keyMap.triggerKey side)
  stick : ∀ side direction, held (.stick side direction) = some (keyMap.stickKey side direction)
  stickPress : ∀ side, held (.stickPress side) = some (keyMap.stickPressKey side)
  option : ∀ side, held (.option side) = some (keyMap.optionKey side)

theorem shows_get? : keyMap.Shows keyMap.get? where
  dpad direction := rfl
  button index := by
    simp only [get?, read, buttonKey]
    cases keyMap.buttons[index]? <;> rfl
  bumper side := rfl
  trigger side := rfl
  stick side direction := rfl
  stickPress side := rfl
  option side := rfl

end KeyMap

theorem Direction.exists_index (number : Fin 9) : ∃ direction : Direction, direction.index = number := by
  have inverse : ∀ number : Fin 9, Direction.all[number].index = number := by decide
  exact ⟨_, inverse number⟩

theorem PerSide.ext_get {α : Type} {one other : PerSide α} (same : ∀ side, one.get side = other.get side) :
    one = other :=
  (PerSide.mk.injEq ..).mpr ⟨same .left, same .right⟩

namespace KeyMap

theorem ext_direction {one other : Vector KeyCode 9}
    (same : ∀ direction : Direction, one.get direction.index = other.get direction.index) :
    one = other := by
  apply Vector.ext
  intro number inside
  obtain ⟨direction, index⟩ := Direction.exists_index ⟨number, inside⟩
  have cell := same direction
  rw [index] at cell
  exact cell

theorem ext_get? {one other : KeyMap} (same : ∀ control, one.get? control = other.get? control) :
    one = other := by
  have buttons : one.buttons = other.buttons := by
    apply Vector.ext
    intro index inside
    have cell := same (.button index)
    simpa [get?, read, inside, Except.toOption] using cell
  exact (KeyMap.mk.injEq ..).mpr
    ⟨ext_direction fun direction => Option.some.inj (same (.dpad direction)),
      buttons,
      PerSide.ext_get fun side => Option.some.inj (same (.bumper side)),
      PerSide.ext_get fun side => Option.some.inj (same (.trigger side)),
      PerSide.ext_get fun side =>
        ext_direction fun direction => Option.some.inj (same (.stick side direction)),
      PerSide.ext_get fun side => Option.some.inj (same (.stickPress side)),
      PerSide.ext_get fun side => Option.some.inj (same (.option side))⟩

/-! ## Requests -/

def serve (keyMap : KeyMap) (request : BindingRequest) : Except BindingError KeyCode × KeyMap :=
  match request.read >>= fun binding => binding.apply keyMap with
  | .error error => (.error error, keyMap)
  | .ok (key, written) => (.ok key, written)

def serveAll : List BindingRequest → KeyMap → List (Except BindingError KeyCode) × KeyMap
  | [], keyMap => ([], keyMap)
  | request :: rest, keyMap =>
    let (answer, keyMap) := keyMap.serve request
    let (answers, keyMap) := serveAll rest keyMap
    (answer :: answers, keyMap)

variable (keyMap : KeyMap)

theorem serve_of_failed {request : BindingRequest} {error : BindingError}
    (failed : (request.read >>= fun binding => binding.apply keyMap) = .error error) :
    keyMap.serve request = (.error error, keyMap) := by
  rw [serve, failed]

theorem serve_of_done {request : BindingRequest} {key : KeyCode} {written : KeyMap}
    (done : (request.read >>= fun binding => binding.apply keyMap) = .ok (key, written)) :
    keyMap.serve request = (.ok key, written) := by
  rw [serve, done]

theorem serve_of_binds {request : BindingRequest} {control : Control} {key : KeyCode}
    (binds : request.Binds control key) :
    keyMap.serve request = (.ok key, keyMap.write control key) := by
  obtain ⟨spec, read, resolved⟩ := binds.read
  have applied := Binding.apply_of_onPad { control, spec } keyMap binds.onPad
  simp only [resolved, Except.map] at applied
  apply serve_of_done
  rw [read]
  exact applied

theorem set_offPad {index : Nat} (outside : 4 ≤ index) (key : KeyCode) :
    keyMap.set (.button index) key = .error (.buttonOutOfRange (.ofNat index)) := by
  have absent : keyMap.buttons[index]? = none := Vector.getElem?_eq_none outside
  simp [set, KeyMap.read, absent, Except.map]

theorem serve_of_refused {request : BindingRequest} {error : BindingError}
    (refused : request.RefusedFor error) : keyMap.serve request = (.error error, keyMap) := by
  apply serve_of_failed
  cases refused with
  | unreadable unread =>
    rw [unread]
    rfl
  | @unknownKey binding name read unknown =>
    rw [read]
    change binding.apply keyMap = _
    rw [Binding.apply, KeySpec.resolve_of_unknownName? unknown]
    rfl
  | @offPad index spec read known outside =>
    obtain ⟨key, resolved⟩ := spec.resolve_eq_ok_iff.mpr known
    rw [read]
    change (spec.resolve >>= fun key => keyMap.set (.button index) key >>= _) = _
    rw [resolved]
    change (keyMap.set (.button index) key >>= _) = _
    rw [keyMap.set_offPad outside key]
    rfl

/-- What a request does to a key map, beside its answer. -/
inductive Served (before : KeyMap) (request : BindingRequest) :
    Except BindingError KeyCode × KeyMap → Prop
  | refused {error : BindingError} (reason : request.RefusedFor error) :
    Served before request (.error error, before)
  | accepted {control : Control} {key : KeyCode} {after : KeyMap}
      (free : ∀ error, ¬request.RefusedFor error) (named : request.control? = some control)
      (bound : after.get? control = some key)
      (others : ∀ other, other ≠ control → after.get? other = before.get? other) :
    Served before request (.ok key, after)

theorem served (request : BindingRequest) : keyMap.Served request (keyMap.serve request) := by
  rcases request.refused_or_binds with ⟨error, refused⟩ | ⟨control, key, binds⟩
  · rw [keyMap.serve_of_refused refused]
    exact .refused refused
  · rw [keyMap.serve_of_binds binds]
    refine .accepted binds.not_refused binds.control? ?_ fun other apart => ?_
    · rw [keyMap.get?_write control control binds.onPad, if_pos rfl]
    · rw [keyMap.get?_write control other binds.onPad, if_neg apart.symm]

def keyFor? (control : Control) (request : BindingRequest) (answer : Except BindingError KeyCode) :
    Option KeyCode :=
  if request.control? = some control then answer.toOption else none

/-- The key of the last accepted request for the control. -/
def lastKey? (control : Control) (answered : List (BindingRequest × Except BindingError KeyCode)) :
    Option KeyCode :=
  answered.reverse.findSome? fun (request, answer) => keyFor? control request answer

theorem lastKey?_cons (control : Control) (request : BindingRequest)
    (answer : Except BindingError KeyCode)
    (rest : List (BindingRequest × Except BindingError KeyCode)) :
    lastKey? control ((request, answer) :: rest) =
      (lastKey? control rest).or (keyFor? control request answer) := by
  rw [lastKey?, List.reverse_cons, List.findSome?_append, List.findSome?_singleton]
  rfl

theorem get?_serve (request : BindingRequest) (control : Control) :
    (keyMap.serve request).2.get? control =
      (keyFor? control request (keyMap.serve request).1).or (keyMap.get? control) := by
  generalize done : keyMap.serve request = result
  cases done ▸ keyMap.served request with
  | refused reason => simp [keyFor?, Except.toOption]
  | @accepted named key after free asked bound others =>
    by_cases same : named = control
    · simp [keyFor?, asked, ← same, bound, Except.toOption]
    · simp [keyFor?, asked, same, others control (Ne.symm same)]

theorem get?_serveAll (requests : List BindingRequest) (control : Control) :
    (serveAll requests keyMap).2.get? control =
      (lastKey? control (requests.zip (serveAll requests keyMap).1)).or (keyMap.get? control) := by
  -- What holds of the rest holds from the key map that the first request leaves.
  induction requests generalizing keyMap with
  | nil => rfl
  | cons request rest ih =>
    simp only [serveAll, List.zip_cons_cons, lastKey?_cons]
    rw [ih, get?_serve, Option.or_assoc]

/-- What a key map holds does not decide how a request is answered. -/
theorem serve_fst_eq (one other : KeyMap) (request : BindingRequest) :
    (one.serve request).1 = (other.serve request).1 := by
  rcases request.refused_or_binds with ⟨error, refused⟩ | ⟨control, key, binds⟩
  · rw [one.serve_of_refused refused, other.serve_of_refused refused]
  · rw [one.serve_of_binds binds, other.serve_of_binds binds]

theorem lastKey?_serveAll (requests : List BindingRequest) (control : Control) :
    lastKey? control (requests.zip (serveAll requests keyMap).1) =
      (requests.filter (·.control? = some control)).reverse.findSome? fun request =>
        (empty.serve request).1.toOption := by
  -- The key map changes on the way, and no answer depends on it.
  induction requests generalizing keyMap with
  | nil => rfl
  | cons request rest ih =>
    simp only [serveAll, List.zip_cons_cons, lastKey?_cons, ih, keyFor?, List.filter_cons]
    by_cases named : request.control? = some control
    · simp only [named, if_true, decide_true, List.reverse_cons, List.findSome?_append,
        List.findSome?_singleton, serve_fst_eq keyMap empty request]
    · simp only [named, if_false, decide_false, Option.or_none, Bool.false_eq_true]

theorem serveAll_congr {requests others : List BindingRequest}
    (same : ∀ control, requests.filter (·.control? = some control) =
      others.filter (·.control? = some control)) :
    (serveAll requests keyMap).2 = (serveAll others keyMap).2 := by
  apply ext_get?
  intro control
  rw [get?_serveAll, get?_serveAll, lastKey?_serveAll, lastKey?_serveAll, same control]

theorem filter_swap {first second : BindingRequest} {one other : Control}
    (firstNames : first.control? = some one) (secondNames : second.control? = some other)
    (apart : one ≠ other) (before after : List BindingRequest) (control : Control) :
    (before ++ first :: second :: after).filter (·.control? = some control) =
      (before ++ second :: first :: after).filter (·.control? = some control) := by
  rw [List.filter_append, List.filter_append]
  simp only [List.filter_cons, firstNames, secondNames, Option.some.injEq, decide_eq_true_eq]
  by_cases here : one = control
  · have elsewhere : other ≠ control := fun there => apart (here.trans there.symm)
    simp [here, elsewhere]
  · simp [here]

/-- However a run of requests starts and whatever it asks for, each request is refused for a reason
of its own and leaves the key map, or it is answered with the key that is now in the cell of its
control, and no other cell has changed. So in the end a cell holds the key of the last accepted
request for it, or what it held from the start; every button that the pad does not have is without
a cell; and the accessors show what the cells hold. Requests may be made in another order as long as
those for one control keep theirs, and so two neighbours for different controls may be swapped. -/
theorem last_request_wins (keyMap : KeyMap) (requests : List BindingRequest) :
    let (answers, after) := serveAll requests keyMap
    (∀ (current : KeyMap) (request : BindingRequest),
      current.Served request (current.serve request)) ∧
    (∀ control, after.get? control =
      (lastKey? control (requests.zip answers)).or (keyMap.get? control)) ∧
    (∀ control, after.get? control = none ↔ ∃ index, control = .button index ∧ 4 ≤ index) ∧
    after.Shows after.get? ∧
    (∀ others : List BindingRequest,
      (∀ control, requests.filter (·.control? = some control) =
        others.filter (·.control? = some control)) → (serveAll others keyMap).2 = after) ∧
    ∀ first second one other, first.control? = some one → second.control? = some other →
      one ≠ other → ∀ earlier later, requests = earlier ++ first :: second :: later →
        (serveAll (earlier ++ second :: first :: later) keyMap).2 = after := by
  refine ⟨fun current request => current.served request, keyMap.get?_serveAll requests,
    get?_eq_none_iff _, shows_get? _, fun others same => (keyMap.serveAll_congr same).symm, ?_⟩
  intro first second one other firstNames secondNames apart earlier later split
  rw [split]
  exact (keyMap.serveAll_congr (filter_swap firstNames secondNames apart earlier later)).symm

/-- The second line has no key, so the first one stands, until the third. -/
example :
    let lines := ["map-dpad up char a", "map-dpad U name hyper", "map-dpad u code 7"]
    (serveAll (lines.map .line) empty).1 =
        [.ok ⟨97⟩, .error (.unknownKeyName "hyper"), .ok ⟨7⟩] ∧
      (serveAll (lines.map .line) empty).2.dpadKey .up = ⟨7⟩ := by
  exact ⟨rfl, rfl⟩

end KeyMap

end Gamepad
