import Gamepad.Proofs.ConsoleRefinement

/-!
The devices that the console numbers by itself. The number of the next device is moved past every
device that a line names, and it stays at the last number when there is nothing past it. Main
statement: until the last number has a session, the next device has none.
-/

namespace Gamepad

def PlainConsole.Counted (console : PlainConsole) : Prop :=
  ∀ slot session, console.occupant? slot = some session →
    min (session.device.number.toNat + 1) (2 ^ 32 - 1) ≤ console.nextDevice

theorem PlainConsole.counted_change {settings : RegistrySettings} {before after : PlainConsole}
    {command : ConsoleCommand} (change : Change settings before command after)
    (counted : before.Counted) : after.Counted := by
  intro slot session found
  have grows := change.nextDevice_le
  rcases change.occupant?_cases slot session found with
    old | ⟨device, rfl, number⟩ | ⟨raw, held, -, present, rfl⟩ | ⟨count, held, present, rfl⟩
  · exact (counted slot session old).trans grows
  · rw [number]
    exact Nat.le_max_right _ _
  · exact (counted slot held present).trans grows
  · rw [PlainSession.device_pollLines]
    exact (counted slot held present).trans grows

namespace Console

variable {settings : RegistrySettings} {console : Console}

theorem counted_create (settings : RegistrySettings) (keyMap : KeyMap) :
    (create (.create settings keyMap)).plain.Counted := by
  intro slot session found
  rw [occupant?_plain, Host.plainSession?] at found
  change ((Registry.create settings keyMap).occupant? slot).map _ = _ at found
  rw [Registry.occupant?_create] at found
  cases found

theorem successor_le_nextDevice (counted : console.plain.Counted) (handle : SessionHandle)
    (session : Session) (live : console.host.registry.session? handle = some session) :
    successor session.device.number ≤ console.nextDevice := by
  obtain ⟨entry, lives, rfl⟩ := console.host.registry.exists_occupant?_of_session? handle session live
  have held : console.plain.occupant? handle.slot = some (entry.session.plain console.host.bus) := by
    rw [occupant?_plain, console.host.plainSession?_of_occupant? handle.slot entry lives]
  rw [UInt32.le_iff_toNat_le, toNat_successor]
  exact counted handle.slot _ held

theorem eq_last_of_successor_le (number : UInt32) (stays : successor number ≤ number) :
    number = 0xffffffff := by
  rw [UInt32.le_iff_toNat_le, toNat_successor] at stays
  have bound := number.toNat_lt
  apply UInt32.toNat_inj.mp
  change number.toNat = 2 ^ 32 - 1
  omega

theorem session_of_alreadyAttached (tidy : console.host.Tidy settings) (id device : DeviceId)
    (vendor product : UInt16)
    (refused : (console.attach id vendor product).1 = .error (.attach (.alreadyAttached device))) :
    ∃ handle session, console.host.registry.session? handle = some session ∧
      session.device = id := by
  unfold attach at refused
  cases found : console.host.registry.berthFor (announced id vendor product) with
  | ok berth =>
    obtain ⟨after, attached, -⟩ := tidy.refilled_attach (announced id vendor product) berth found
    simp only [attached] at refused
    cases refused
  | error error =>
    simp only [(tidy.attach_refused (announced id vendor product) error found).1] at refused
    cases refused
    obtain ⟨handle, taken⟩ :=
      console.host.registry.findDevice?_of_alreadyAttached (announced id vendor product) device found
    obtain ⟨entry, live, same⟩ := console.host.registry.findDevice?_eq_some id handle taken
    exact ⟨handle, entry.session, by rw [Registry.session?, live, Option.map_some], same⟩

/-- After any lines the id that the next unnumbered device would get has no session, unless the
last id of all has one; and until then no line that attaches an unnumbered device is refused because
the device is attached already. -/
theorem unnumbered_device_is_new (settings : RegistrySettings) (keyMap : KeyMap)
    (lines : List String)
    (unreached : ∀ handle session,
      ((create (.create settings keyMap)).executeAll lines).2.host.registry.session? handle =
        some session → session.device ≠ ⟨0xffffffff⟩) :
    let console := ((create (.create settings keyMap)).executeAll lines).2
    (∀ handle session, console.host.registry.session? handle = some session →
      session.device ≠ ⟨console.nextDevice⟩) ∧
    ∀ line vendor product, ConsoleCommand.parse line = .ok (some (.attach none vendor product)) →
      ∀ device, (console.execute line).1 ≠ .error (.attach (.alreadyAttached device)) := by
  intro console
  have tidy : console.host.Tidy settings := tidy_executeAll lines _ (Host.tidy_create settings keyMap)
  have counted : console.plain.Counted :=
    kept_executeAll PlainConsole.Counted lines _ (Host.tidy_create settings keyMap)
      (fun _ _ _ _ _ _ change => PlainConsole.counted_change change) (counted_create settings keyMap)
  have new : ∀ handle session, console.host.registry.session? handle = some session →
      session.device ≠ ⟨console.nextDevice⟩ := by
    intro handle session live same
    have number : session.device.number = console.nextDevice := congrArg DeviceId.number same
    have past := successor_le_nextDevice counted handle session live
    rw [← number] at past
    have last := eq_last_of_successor_le _ past
    exact unreached handle session live (congrArg DeviceId.mk last)
  refine ⟨new, ?_⟩
  intro line vendor product parsed device refused
  simp only [execute, parsed, run, Option.getD_none] at refused
  obtain ⟨handle, session, live, same⟩ := session_of_alreadyAttached tidy _ device vendor product refused
  exact new handle session live same

theorem unnumbered_device_is_new_at_last :
    let lines := ["attach 046d:c216 4294967294"]
    let console := ((create (.create {} .empty)).executeAll lines).2
    console.nextDevice = 0xffffffff ∧
      (∀ handle session, console.host.registry.session? handle = some session →
        session.device ≠ ⟨0xffffffff⟩) ∧
      ∀ device, (console.execute "attach 046d:c218").1 ≠ .error (.attach (.alreadyAttached device)) := by
  intro lines console
  have last : console.nextDevice = 0xffffffff := rfl
  have unreached : ∀ handle session, console.host.registry.session? handle = some session →
      session.device ≠ ⟨0xffffffff⟩ := by
    have absent : console.host.registry.findDevice? ⟨0xffffffff⟩ = none := rfl
    intro handle session live
    obtain ⟨entry, lives, rfl⟩ :=
      console.host.registry.exists_occupant?_of_session? handle session live
    exact (console.host.registry.findDevice?_eq_none_iff _).mp absent handle.slot entry lives
  have new := unnumbered_device_is_new {} .empty lines unreached
  exact ⟨last, new.1, new.2 "attach 046d:c218" 0x046d 0xc218 rfl⟩

/-- Nothing comes past the last device: while it has its session, the next unnumbered device would
be the same one. -/
theorem last_device_is_numbered_again :
    let console := ((create (.create {} .empty)).executeAll ["attach 046d:c216 4294967295"]).2
    (∃ handle session, console.host.registry.session? handle = some session ∧
      session.device = ⟨console.nextDevice⟩) ∧
    (console.execute "attach 046d:c216").1 = .error (.attach (.alreadyAttached ⟨0xffffffff⟩)) := by
  intro console
  have live : console.host.registry.session? { slot := 0, generation := 0 } =
      some (.opened ⟨0xffffffff⟩ .rumblePad (.interruptIn 1) .dropOldest ⟨0⟩) := rfl
  exact ⟨⟨_, _, live, rfl⟩, rfl⟩

end Console

end Gamepad
