import Gamepad.Proofs.PlainChanges
import Gamepad.Proofs.TidyHost

/-!
The console does what the plain console does. Main statement: every script of lines gets the
answers of the plain console and ends in its state.
-/

namespace Gamepad.Console

def plain (console : Console) : PlainConsole where
  keyMap := console.host.registry.keyMap
  nextDevice := console.nextDevice.toNat
  slots := console.host.plainSlots

theorem occupant?_plain (console : Console) (slot : Nat) :
    console.plain.occupant? slot = console.host.plainSession? slot := by
  unfold PlainConsole.occupant? plain
  rw [Host.getElem?_plainSlots]
  split
  next => rfl
  next outside =>
    cases lives : console.host.registry.occupant? slot with
    | none => rw [Host.plainSession?, lives]; rfl
    | some entry =>
      exact absurd (console.host.registry.lt_capacity_of_occupant? slot entry lives) outside

theorem toNat_successor (number : UInt32) :
    (successor number).toNat = min (number.toNat + 1) (2 ^ 32 - 1) := by
  unfold successor
  split
  next last =>
    subst last
    rfl
  next apart =>
    have bound := number.toNat_lt
    have different : number.toNat ≠ 2 ^ 32 - 1 := fun same => apart (UInt32.toNat_inj.mp same)
    rw [UInt32.toNat_add]
    change (number.toNat + 1) % 2 ^ 32 = _
    omega

theorem toNat_max (first second : UInt32) :
    (max first second).toNat = max first.toNat second.toNat := by
  change (if first ≤ second then second else first).toNat = _
  split
  next le => exact (Nat.max_eq_right (UInt32.le_iff_toNat_le.mp le)).symm
  next gt =>
    have below := Nat.lt_of_not_le (mt UInt32.le_iff_toNat_le.mpr gt)
    exact (Nat.max_eq_left (Nat.le_of_lt below)).symm

/-- A line is answered as by the plain console, and what is kept afterwards is the same. -/
structure Follows (settings : RegistrySettings)
    (after : Except ConsoleError (List String) × Console)
    (plainAfter : Except ConsoleError (List String) × PlainConsole) : Prop where
  answer : after.1 = plainAfter.1
  state : after.2.plain = plainAfter.2
  tidy : after.2.host.Tidy settings

theorem handleAt_cases (console : Console) (slot : Nat) :
    (console.plain.occupant? slot = none ∧ console.handleAt slot = .error (.emptySlot slot)) ∨
    ∃ handle entry, handle.slot = slot ∧ console.host.registry.entry? handle = some entry ∧
      console.plain.occupant? slot = some (entry.session.plain console.host.bus) ∧
      console.handleAt slot = .ok handle := by
  rw [occupant?_plain]
  unfold handleAt Host.plainSession?
  rw [Registry.handleAt?_eq]
  cases lives : console.host.registry.occupant? slot with
  | none => exact .inl ⟨rfl, rfl⟩
  | some entry =>
    have live := (console.host.registry.entry?_eq_some_iff
      { slot, generation := console.host.registry.generationAt slot } entry).mpr ⟨lives, rfl⟩
    exact .inr ⟨_, entry, rfl, live, rfl, rfl⟩

theorem plain_refilled {settings : RegistrySettings} {after : Host.OnReplay} {slot : Nat}
    {session? : Option PlainSession} (console : Console)
    (refilled : Host.Refilled settings console.host after slot session?) :
    ({ console with host := after } : Console).plain = console.plain.fill slot session? := by
  unfold plain PlainConsole.fill
  rw [refilled.keyMap, refilled.slots]

variable {settings : RegistrySettings} {console : Console}

abbrev announced (id : DeviceId) (vendor product : UInt16) : DeviceInfo where
  id
  vendor
  product
  endpoints := [.interruptIn 1]

theorem follows_attach (tidy : console.host.Tidy settings) (id : DeviceId)
    (vendor product : UInt16) :
    Follows settings (console.attach id vendor product)
      (console.plain.attach settings id vendor product) := by
  have numbers : (max console.nextDevice (successor id.number)).toNat =
      max console.nextDevice.toNat (min (id.number.toNat + 1) (2 ^ 32 - 1)) := by
    rw [toNat_max, toNat_successor]
  have place := Host.slotFor_eq console.plain console.host rfl (announced id vendor product)
    (.interruptIn 1) rfl
  unfold attach PlainConsole.attach
  rw [place]
  cases found : console.host.registry.berthFor (announced id vendor product) with
  | error error =>
    obtain ⟨refused, restored⟩ := tidy.attach_refused (announced id vendor product) error found
    change (if ((console.host.plug id).registry.findDevice? id).isSome then _ else _) = _ at restored
    simp only [refused, restored]
    refine ⟨rfl, ?_, tidy⟩
    exact congrArg (fun number => PlainConsole.mk console.plain.keyMap number console.plain.slots) numbers
  | ok berth =>
    obtain ⟨after, attached, name, refilled⟩ :=
      tidy.refilled_attach (announced id vendor product) berth found
    simp only [attached, name]
    refine ⟨rfl, ?_, refilled.tidy⟩
    calc ({ host := after, nextDevice := max console.nextDevice (successor id.number) } : Console).plain
      _ = { ({ console with host := after } : Console).plain with
            nextDevice := (max console.nextDevice (successor id.number)).toNat } := rfl
      _ = { console.plain.fill berth.handle.slot (some (.opened id)) with
            nextDevice := max console.nextDevice.toNat (min (id.number.toNat + 1) (2 ^ 32 - 1)) } := by
        rw [console.plain_refilled refilled, numbers]

theorem follows_detach (tidy : console.host.Tidy settings) (slot : Nat) :
    Follows settings (console.detach slot) (console.plain.detach slot) := by
  unfold detach PlainConsole.detach
  rcases console.handleAt_cases slot with ⟨empty, unheld⟩ | ⟨handle, entry, rfl, live, present, held⟩
  · rw [empty, unheld]
    exact ⟨rfl, rfl, tidy⟩
  · have refilled := tidy.refilled_detach handle entry live
    rw [present, held]
    simp only [Registry.session?, live, Option.map_some]
    exact ⟨rfl, console.plain_refilled refilled, refilled.tidy⟩

theorem follows_report (tidy : console.host.Tidy settings) (slot : Nat) (raw : RawReport) :
    Follows settings (console.report slot raw) (console.plain.report slot raw) := by
  unfold report PlainConsole.report
  rcases console.handleAt_cases slot with ⟨empty, unheld⟩ | ⟨handle, entry, rfl, live, present, held⟩
  · rw [empty, unheld]
    exact ⟨rfl, rfl, tidy⟩
  · have lives := ((console.host.registry.entry?_eq_some_iff handle entry).mp live).1
    have refilled := tidy.refilled_pushReport handle.slot entry lives raw
    rw [present, held]
    simp only [Registry.session?, live, Option.map_some]
    exact ⟨rfl, console.plain_refilled refilled, refilled.tidy⟩

theorem follows_poll (tidy : console.host.Tidy settings) (slot count : Nat) :
    Follows settings (console.poll slot count) (console.plain.poll settings slot count) := by
  unfold poll PlainConsole.poll
  rcases console.handleAt_cases slot with ⟨empty, unheld⟩ | ⟨handle, entry, rfl, live, present, held⟩
  · rw [empty, unheld]
    exact ⟨rfl, rfl, tidy⟩
  · obtain ⟨lines, session, after, polled, plainPolled, refilled⟩ :=
      Host.refilled_pollLines settings handle count console.host tidy entry live
    change _ = (lines, session) at plainPolled
    have keyMap : console.plain.keyMap = console.host.registry.keyMap := rfl
    rw [present, held]
    simp only [polled, keyMap, plainPolled]
    exact ⟨rfl, console.plain_refilled refilled, refilled.tidy⟩

theorem list_eq (tidy : console.host.Tidy settings) : console.list = console.plain.list settings := by
  unfold list PlainConsole.list
  rw [Registry.entries_eq, List.map_filterMap]
  have length : console.plain.slots.length = console.host.registry.capacity :=
    console.host.length_plainSlots
  rw [length]
  congr 1
  funext slot
  rw [occupant?_plain, Host.plainSession?]
  cases lives : console.host.registry.occupant? slot with
  | none => rfl
  | some entry =>
    have name := (tidy.tended slot entry lives).name
    have queued : entry.session.queue.size = entry.session.queue.toList.length :=
      entry.session.queue.length_toList.symm
    simp only [Option.map_some, name, queued]
    rfl

theorem follows_bind (tidy : console.host.Tidy settings) (binding : Binding) :
    Follows settings (console.bind binding) (console.plain.bind binding) := by
  unfold bind PlainConsole.bind Host.bind
  have keyMap : console.plain.keyMap = console.host.registry.keyMap := rfl
  rw [keyMap]
  cases binding.apply console.host.registry.keyMap with
  | error error => exact ⟨rfl, rfl, tidy⟩
  | ok bound => exact ⟨rfl, rfl, tidy.bound bound.2⟩

theorem follows_run (tidy : console.host.Tidy settings) (command : ConsoleCommand) :
    Follows settings (console.run command) (console.plain.run settings command) := by
  cases command with
  | attach id? vendor product =>
    have number : (UInt32.ofNat console.plain.nextDevice) = console.nextDevice := UInt32.ofNat_toNat
    unfold run PlainConsole.run
    rw [number]
    exact follows_attach tidy _ vendor product
  | detach slot => exact follows_detach tidy slot
  | report slot raw => exact follows_report tidy slot raw
  | poll slot count => exact follows_poll tidy slot count
  | list =>
    refine ⟨?_, rfl, tidy⟩
    exact congrArg Except.ok (list_eq tidy)
  | bind binding => exact follows_bind tidy binding

theorem follows_execute (tidy : console.host.Tidy settings) (line : String) :
    Follows settings (console.execute line) (console.plain.execute settings line) := by
  unfold execute PlainConsole.execute
  cases ConsoleCommand.parse line with
  | error error => exact ⟨rfl, rfl, tidy⟩
  | ok command? =>
    cases command? with
    | none => exact ⟨rfl, rfl, tidy⟩
    | some command => exact follows_run tidy command

def executeAll : List String → Console → List (Except ConsoleError (List String)) × Console
  | [], console => ([], console)
  | line :: rest, console =>
    let (answer, console) := console.execute line
    let (answers, console) := executeAll rest console
    (answer :: answers, console)

theorem executeAll_plain (lines : List String) (console : Console)
    (tidy : console.host.Tidy settings) :
    ((console.executeAll lines).1, (console.executeAll lines).2.plain) =
      console.plain.executeAll settings lines := by
  induction lines generalizing console with
  | nil => rfl
  | cons line rest ih =>
    have first := follows_execute tidy line
    have later := ih (console.execute line).2 first.tidy
    simp only [executeAll, PlainConsole.executeAll, ← first.answer, ← first.state, ← later]

theorem tidy_executeAll (lines : List String) (console : Console)
    (tidy : console.host.Tidy settings) : (console.executeAll lines).2.host.Tidy settings := by
  induction lines generalizing console with
  | nil => exact tidy
  | cons line rest ih => exact ih _ (follows_execute tidy line).tidy

/-- What the changes of a plain console keep is kept by the lines of a console. -/
theorem kept_executeAll (Kept : PlainConsole → Prop) (lines : List String) (console : Console)
    (tidy : console.host.Tidy settings)
    (change : ∀ line ∈ lines, ∀ command, ConsoleCommand.parse line = .ok (some command) →
      ∀ before after, PlainConsole.Change settings before command after → Kept before → Kept after)
    (start : Kept console.plain) : Kept (console.executeAll lines).2.plain := by
  have plain : (console.executeAll lines).2.plain = (console.plain.executeAll settings lines).2 :=
    congrArg Prod.snd (executeAll_plain lines console tidy)
  rw [plain]
  exact PlainConsole.kept_by_script settings console.plain Kept lines change start

/-- Every script, from the start: the answers are those of the plain console, and so is the state
after the last line. -/
theorem script_refines_plain (settings : RegistrySettings) (keyMap : KeyMap) (lines : List String) :
    let start := create (.create settings keyMap)
    ((start.executeAll lines).1, (start.executeAll lines).2.plain) =
      (PlainConsole.create settings keyMap).executeAll settings lines := by
  intro start
  have tidy : start.host.Tidy settings := Host.tidy_create settings keyMap
  have plain : start.plain = PlainConsole.create settings keyMap := by
    change PlainConsole.mk keyMap 1 ((List.replicate _ ({} : RegistrySlot)).map _) = _
    rw [List.map_replicate]
    rfl
  rw [executeAll_plain lines start tidy, plain]

end Gamepad.Console
