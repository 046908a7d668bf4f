import Gamepad.Proofs.PlainConsole

/-!
What one command changes in a plain console: nothing but the key map and the number of the next
device, or one slot. What every change keeps is kept by every script.
-/

namespace Gamepad

theorem PlainSession.device_poll (session : PlainSession) (settings : RegistrySettings)
    (keyMap : KeyMap) : (session.poll settings keyMap).2.device = session.device := by
  unfold poll
  split <;> rfl

theorem PlainSession.device_pollLines (settings : RegistrySettings) (keyMap : KeyMap) (count : Nat)
    (session : PlainSession) :
    (session.pollLines settings keyMap count).2.device = session.device := by
  induction count generalizing session with
  | zero => rfl
  | succ count ih =>
    simp only [pollLines]
    exact (ih _).trans (session.device_poll settings keyMap)

namespace PlainConsole

theorem occupant?_fill_self (console : PlainConsole) (slot : Nat) (session? : Option PlainSession)
    (inside : slot < console.slots.length) :
    (console.fill slot session?).occupant? slot = session? := by
  unfold occupant? fill
  rw [List.getElem?_set_self inside, Option.getD_some]

theorem occupant?_fill_of_ne (console : PlainConsole) (slot other : Nat)
    (session? : Option PlainSession) (apart : slot ≠ other) :
    (console.fill slot session?).occupant? other = console.occupant? other := by
  unfold occupant? fill
  rw [List.getElem?_set_ne apart]

theorem occupant?_fill (console : PlainConsole) (slot other : Nat) (session? : Option PlainSession)
    (session : PlainSession) (found : (console.fill slot session?).occupant? other = some session) :
    (other = slot ∧ session? = some session) ∨
      (other ≠ slot ∧ console.occupant? other = some session) := by
  by_cases same : slot = other
  · subst same
    by_cases inside : slot < console.slots.length
    · rw [occupant?_fill_self console slot session? inside] at found
      exact .inl ⟨rfl, found⟩
    · have outside : (console.fill slot session?).slots[slot]? = none := by
        rw [fill, List.getElem?_eq_none_iff, List.length_set]
        exact Nat.le_of_not_lt inside
      rw [occupant?, outside] at found
      cases found
  · rw [occupant?_fill_of_ne console slot other session? same] at found
    exact .inr ⟨Ne.symm same, found⟩

theorem slot_of_slotFor (console : PlainConsole) (device : DeviceId) (vendor product : UInt16)
    (slot : Nat) (found : console.slotFor device vendor product = .ok slot) :
    slot < console.slots.length ∧ console.occupant? slot = none := by
  unfold slotFor at found
  split at found
  next => cases found
  next =>
    split at found
    next => cases found
    next =>
      split at found
      next => cases found
      next free =>
        cases found
        obtain ⟨inside, empty, -⟩ := List.findIdx?_eq_some_iff_getElem.mp free
        refine ⟨inside, ?_⟩
        rw [occupant?, List.getElem?_eq_getElem inside, Option.getD_some]
        exact Option.isNone_iff_eq_none.mp empty

/-- The number of the next device once this one has been used. -/
def countPast (console : PlainConsole) (device : DeviceId) : Nat :=
  max console.nextDevice (min (device.number.toNat + 1) (2 ^ 32 - 1))

/-- Everything that a command can do to a plain console. -/
inductive Change (settings : RegistrySettings) (console : PlainConsole) :
    ConsoleCommand → PlainConsole → Prop
  | unfilled (command : ConsoleCommand) (keyMap : KeyMap) (nextDevice : Nat)
      (grows : console.nextDevice ≤ nextDevice) :
    Change settings console command { console with keyMap, nextDevice }
  | opened (id? : Option DeviceId) (vendor product : UInt16) (device : DeviceId) (slot : Nat)
      (inside : slot < console.slots.length) (free : console.occupant? slot = none) :
    Change settings console (.attach id? vendor product)
      { console.fill slot (some (.opened device)) with nextDevice := console.countPast device }
  | ended (slot : Nat) (session : PlainSession) (present : console.occupant? slot = some session) :
    Change settings console (.detach slot) (console.fill slot none)
  | reported (slot : Nat) (raw : RawReport) (session : PlainSession)
      (present : console.occupant? slot = some session) :
    Change settings console (.report slot raw)
      (console.fill slot (some { session with reports := session.reports ++ [raw] }))
  | polled (slot count : Nat) (session : PlainSession)
      (present : console.occupant? slot = some session) :
    Change settings console (.poll slot count)
      (console.fill slot (some (session.pollLines settings console.keyMap count).2))

theorem Change.nextDevice_le {settings : RegistrySettings} {before after : PlainConsole}
    {command : ConsoleCommand} (change : Change settings before command after) :
    before.nextDevice ≤ after.nextDevice := by
  cases change with
  | unfilled command keyMap nextDevice grows => exact grows
  | opened => exact Nat.le_max_left _ _
  | ended => exact Nat.le_refl _
  | reported => exact Nat.le_refl _
  | polled => exact Nat.le_refl _

theorem Change.occupant?_cases {settings : RegistrySettings} {before after : PlainConsole}
    {command : ConsoleCommand} (change : Change settings before command after) (slot : Nat)
    (session : PlainSession) (found : after.occupant? slot = some session) :
    before.occupant? slot = some session ∨
    (∃ device, session = .opened device ∧ after.nextDevice = before.countPast device) ∨
    (∃ raw held, command = .report slot raw ∧ before.occupant? slot = some held ∧
      session = { held with reports := held.reports ++ [raw] }) ∨
    ∃ count held, before.occupant? slot = some held ∧
      session = (held.pollLines settings before.keyMap count).2 := by
  cases change with
  | unfilled command keyMap nextDevice grows => exact .inl found
  | opened id? vendor product device taken inside free =>
    rcases before.occupant?_fill taken slot _ session found with ⟨-, new⟩ | ⟨-, old⟩
    · exact .inr (.inl ⟨device, (Option.some.inj new).symm, rfl⟩)
    · exact .inl old
  | ended gone held present =>
    rcases before.occupant?_fill gone slot _ session found with ⟨-, new⟩ | ⟨-, old⟩
    · cases new
    · exact .inl old
  | reported addressed raw held present =>
    rcases before.occupant?_fill addressed slot _ session found with ⟨rfl, new⟩ | ⟨-, old⟩
    · exact .inr (.inr (.inl ⟨raw, held, rfl, present, (Option.some.inj new).symm⟩))
    · exact .inl old
  | polled asked count held present =>
    rcases before.occupant?_fill asked slot _ session found with ⟨rfl, new⟩ | ⟨-, old⟩
    · exact .inr (.inr (.inr ⟨count, held, present, (Option.some.inj new).symm⟩))
    · exact .inl old

variable (settings : RegistrySettings) (console : PlainConsole)

theorem Change.refl (command : ConsoleCommand) : Change settings console command console :=
  .unfilled command console.keyMap console.nextDevice (Nat.le_refl _)

theorem change_run (command : ConsoleCommand) :
    Change settings console command (console.run settings command).2 := by
  cases command with
  | attach id? vendor product =>
    simp only [run, attach]
    cases found : console.slotFor (id?.getD ⟨.ofNat console.nextDevice⟩) vendor product with
    | error error => exact .unfilled _ console.keyMap _ (Nat.le_max_left _ _)
    | ok slot =>
      obtain ⟨inside, free⟩ := console.slot_of_slotFor _ vendor product slot found
      exact .opened id? vendor product _ slot inside free
  | detach slot =>
    simp only [run, detach]
    cases present : console.occupant? slot with
    | none => exact .refl settings console _
    | some session => exact .ended slot session present
  | report slot raw =>
    simp only [run, report]
    cases present : console.occupant? slot with
    | none => exact .refl settings console _
    | some session => exact .reported slot raw session present
  | poll slot count =>
    simp only [run, poll]
    cases present : console.occupant? slot with
    | none => exact .refl settings console _
    | some session => exact .polled slot count session present
  | list => exact .refl settings console _
  | bind binding =>
    simp only [run, bind]
    cases binding.apply console.keyMap with
    | error error => exact .refl settings console _
    | ok bound => exact .unfilled _ bound.2 console.nextDevice (Nat.le_refl _)

theorem change_execute (line : String) :
    (console.execute settings line).2 = console ∨
    ∃ command, ConsoleCommand.parse line = .ok (some command) ∧
      Change settings console command (console.execute settings line).2 := by
  unfold execute
  cases parsed : ConsoleCommand.parse line with
  | error error => exact .inl rfl
  | ok command? =>
    cases command? with
    | none => exact .inl rfl
    | some command => exact .inr ⟨command, rfl, change_run settings console command⟩

/-- What every change by a command of a script keeps is kept by the script. -/
theorem kept_by_script (Kept : PlainConsole → Prop) (lines : List String)
    (change : ∀ line ∈ lines, ∀ command, ConsoleCommand.parse line = .ok (some command) →
      ∀ before after, Change settings before command after → Kept before → Kept after)
    (start : Kept console) : Kept (console.executeAll settings lines).2 := by
  induction lines generalizing console with
  | nil => exact start
  | cons line rest ih =>
    refine ih (console.execute settings line).2
      (fun later member => change later (List.mem_cons_of_mem _ member)) ?_
    rcases change_execute settings console line with same | ⟨command, parsed, changed⟩
    · rw [same]
      exact start
    · exact change line List.mem_cons_self command parsed _ _ changed start

end PlainConsole

end Gamepad
