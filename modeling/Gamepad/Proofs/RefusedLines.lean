import Gamepad.Proofs.ConsoleRefinement

/-!
Lines that the console refuses. An attachment plugs its device in before the registry decides, and
takes this back where no session has the device. Main statement: after a refused line everything
is as it was, but for the number of the next device, which may have gone up.
-/

namespace Gamepad.Console

variable {settings : RegistrySettings} {console : Console}

/-- The later console differs from the earlier at most in a higher number of the next device. -/
structure OnlyNumbered (before after : Console) : Prop where
  host : after.host = before.host
  nextDevice : before.nextDevice ≤ after.nextDevice

theorem OnlyNumbered.refl (console : Console) : OnlyNumbered console console where
  host := rfl
  nextDevice := UInt32.le_refl _

theorem le_max_nextDevice (number other : UInt32) : number ≤ max number other := by
  rw [UInt32.le_iff_toNat_le, toNat_max]
  exact Nat.le_max_left _ _

theorem attach_refused (tidy : console.host.Tidy settings) (id : DeviceId) (vendor product : UInt16)
    (error : ConsoleError) (refused : (console.attach id vendor product).1 = .error error) :
    OnlyNumbered console (console.attach id vendor product).2 := by
  unfold attach at refused ⊢
  cases found : console.host.registry.berthFor (announced id vendor product) with
  | ok berth =>
    obtain ⟨after, attached, -⟩ :=
      tidy.refilled_attach (announced id vendor product) berth found
    simp only [attached] at refused
    cases refused
  | error reason =>
    obtain ⟨unattached, restored⟩ := tidy.attach_refused (announced id vendor product) reason found
    simp only [unattached] at refused ⊢
    exact
      { host := restored
        nextDevice := le_max_nextDevice _ _ }

theorem detach_refused (slot : Nat) (error : ConsoleError)
    (refused : (console.detach slot).1 = .error error) : (console.detach slot).2 = console := by
  unfold detach at refused ⊢
  cases held : console.handleAt slot with
  | error reason => rfl
  | ok handle =>
    simp only [held] at refused
    cases refused

theorem report_refused (slot : Nat) (raw : RawReport) (error : ConsoleError)
    (refused : (console.report slot raw).1 = .error error) :
    (console.report slot raw).2 = console := by
  unfold report at refused ⊢
  cases held : console.handleAt slot with
  | error reason => rfl
  | ok handle =>
    simp only [held] at refused ⊢
    cases live : console.host.registry.session? handle with
    | none => rfl
    | some session =>
      simp only [live] at refused
      cases refused

theorem poll_refused (tidy : console.host.Tidy settings) (slot count : Nat) (error : ConsoleError)
    (refused : (console.poll slot count).1 = .error error) : (console.poll slot count).2 = console := by
  unfold poll at refused ⊢
  rcases console.handleAt_cases slot with ⟨-, unheld⟩ | ⟨handle, entry, -, live, -, held⟩
  · rw [unheld]
  · obtain ⟨lines, _, after, polled, -⟩ :=
      Host.refilled_pollLines settings handle count console.host tidy entry live
    simp only [held, polled] at refused
    cases refused

theorem bind_refused (binding : Binding) (error : ConsoleError)
    (refused : (console.bind binding).1 = .error error) : (console.bind binding).2 = console := by
  unfold bind Host.bind at refused ⊢
  cases applied : binding.apply console.host.registry.keyMap with
  | error reason => rfl
  | ok bound =>
    simp only [applied] at refused
    cases refused

theorem run_refused (tidy : console.host.Tidy settings) (command : ConsoleCommand)
    (error : ConsoleError) (refused : (console.run command).1 = .error error) :
    OnlyNumbered console (console.run command).2 := by
  cases command with
  | attach id? vendor product => exact attach_refused tidy _ vendor product error refused
  | detach slot =>
    rw [run, detach_refused slot error refused]
    exact .refl console
  | report slot raw =>
    rw [run, report_refused slot raw error refused]
    exact .refl console
  | poll slot count =>
    rw [run, poll_refused tidy slot count error refused]
    exact .refl console
  | list => cases refused
  | bind binding =>
    rw [run, bind_refused binding error refused]
    exact .refl console

theorem execute_refused (tidy : console.host.Tidy settings) (line : String) (error : ConsoleError)
    (refused : (console.execute line).1 = .error error) :
    OnlyNumbered console (console.execute line).2 := by
  unfold execute at refused ⊢
  cases parsed : ConsoleCommand.parse line with
  | error reason => exact .refl console
  | ok command? =>
    simp only [parsed] at refused
    cases command? with
    | none => cases refused
    | some command => exact run_refused tidy command error refused

/-- After any lines, some of which may have been refused, a line that is refused leaves the host as
it was: the key map, the slots with their generations and sessions, the sources, the scripts of the
devices on the bus, the reads in flight and the log. The number of the next device may have gone
up. -/
theorem refused_line_changes_nothing (settings : RegistrySettings) (keyMap : KeyMap)
    (lines : List String) (line : String) (error : ConsoleError)
    (refused : ((((create (.create settings keyMap)).executeAll lines).2).execute line).1 =
      .error error) :
    let before := ((create (.create settings keyMap)).executeAll lines).2
    let after := (before.execute line).2
    after.host = before.host ∧ before.nextDevice ≤ after.nextDevice := by
  intro before after
  have tidy : before.host.Tidy settings :=
    tidy_executeAll lines _ (Host.tidy_create settings keyMap)
  have numbered := execute_refused tidy line error refused
  exact ⟨numbered.host, numbered.nextDevice⟩

theorem attached_twice_changes_nothing :
    let lines := ["attach 046d:c216 7", "report 0 7f7f7f7f18000000"]
    let before := ((create (.create {} .empty)).executeAll lines).2
    let after := (before.execute "attach 046d:c218 7").2
    (before.execute "attach 046d:c218 7").1 = .error (.attach (.alreadyAttached ⟨7⟩)) ∧
      (after.host = before.host ∧ before.nextDevice ≤ after.nextDevice) ∧
      before.host.bus.reportsOf ⟨7⟩ = [#v[127, 127, 127, 127, 0x18, 0, 0, 0]] := by
  intro lines before after
  have refused : (before.execute "attach 046d:c218 7").1 = .error (.attach (.alreadyAttached ⟨7⟩)) :=
    rfl
  exact ⟨refused, refused_line_changes_nothing {} .empty lines "attach 046d:c218 7" _ refused,
    by decide +kernel⟩

end Gamepad.Console
