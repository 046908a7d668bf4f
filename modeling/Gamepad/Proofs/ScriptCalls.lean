import Gamepad.Proofs.ConsoleRefinement
import Gamepad.Proofs.ReplayRun

/-!
The steps that the lines of a console take on its host, and the record that they leave on a bus
that is recorded. Main statement: every read that a script submits is accepted, and no read that it
asks about has failed.
-/

namespace Gamepad

namespace Console

def steps (console : Console) : ConsoleCommand → List ReplayStep
  | .attach id? vendor product =>
    let id := id?.getD ⟨console.nextDevice⟩
    let (attached, host) := (console.host.plug id).attach (announced id vendor product)
    let restored := !attached.isOk && (host.registry.findDevice? id).isNone
    [.script (.plug id), .call (.attach (announced id vendor product))] ++
      if restored then [.script (.unplug id)] else []
  | .detach slot =>
    match console.handleAt slot with
    | .error _ => []
    | .ok handle =>
      .call (.detach handle) :: match console.host.registry.session? handle with
        | some session => [.script (.unplug session.device)]
        | none => []
  | .report slot raw =>
    match console.handleAt slot with
    | .error _ => []
    | .ok handle =>
      match console.host.registry.session? handle with
      | none => []
      | some session => [.script (.pushReport session.device raw)]
  | .poll slot count =>
    match console.handleAt slot with
    | .error _ => []
    | .ok handle => .replicate count (.call (.poll handle))
  | .list => []
  | .bind binding => [.call (.bind binding)]

def lineSteps (console : Console) (line : String) : List ReplayStep :=
  match ConsoleCommand.parse line with
  | .ok (some command) => console.steps command
  | _ => []

def scriptSteps : List String → Console → List ReplayStep
  | [], _ => []
  | line :: rest, console =>
    console.lineSteps line ++ scriptSteps rest (console.execute line).2

theorem host_pollLines_of_stale (handle : SessionHandle) (count : Nat) (host : Host.OnReplay)
    (stale : host.registry.entry? handle = none) : (pollLines handle count host).2 = host := by
  cases count with
  | zero => rfl
  | succ count => simp only [pollLines, host.poll_of_stale handle stale]

theorem host_pollLines (handle : SessionHandle) (count : Nat) (host : Host.OnReplay) :
    (pollLines handle count host).2 = host.replay (.replicate count (.call (.poll handle))) := by
  -- The lines stop at the first error and the steps do not, which shows with no host.
  induction count generalizing host with
  | zero => rfl
  | succ count ih =>
    rw [List.replicate_succ]
    change _ = (host.poll handle).2.replay _
    rw [← ih]
    cases live : host.registry.entry? handle with
    | none =>
      rw [host_pollLines_of_stale handle _ host live, host.poll_of_stale handle live,
        host_pollLines_of_stale handle _ host live]
    | some entry => simp only [pollLines, host.poll_of_entry? handle entry live]

theorem host_run (console : Console) (command : ConsoleCommand) :
    (console.run command).2.host = console.host.replay (console.steps command) := by
  cases command with
  | attach id? vendor product =>
    simp only [run, attach, steps]
    generalize id?.getD ⟨console.nextDevice⟩ = id
    rcases attached : (console.host.plug id).attach (announced id vendor product) with ⟨answer, host⟩
    have replayed : console.host.replay
        [.script (.plug id), .call (.attach (announced id vendor product))] = host :=
      congrArg Prod.snd attached
    rw [Host.replay_append, replayed]
    cases answer with
    | ok handle => rfl
    | error error =>
      cases found : host.registry.findDevice? id <;> simp only [found] <;> rfl
  | detach slot =>
    simp only [run, detach, steps]
    cases console.handleAt slot with
    | error error => rfl
    | ok handle => cases held : console.host.registry.session? handle <;> simp only [held] <;> rfl
  | report slot raw =>
    simp only [run, report, steps]
    cases console.handleAt slot with
    | error error => rfl
    | ok handle => cases held : console.host.registry.session? handle <;> simp only [held] <;> rfl
  | poll slot count =>
    simp only [run, poll, steps]
    cases console.handleAt slot with
    | error error => rfl
    | ok handle => exact host_pollLines handle count console.host
  | list => rfl
  | bind binding => rfl

theorem host_execute (console : Console) (line : String) :
    (console.execute line).2.host = console.host.replay (console.lineSteps line) := by
  unfold execute lineSteps
  cases ConsoleCommand.parse line with
  | error error => rfl
  | ok command? =>
    cases command? with
    | none => rfl
    | some command => exact console.host_run command

theorem host_executeAll (lines : List String) (console : Console) :
    (console.executeAll lines).2.host = console.host.replay (console.scriptSteps lines) := by
  induction lines generalizing console with
  | nil => rfl
  | cons line rest ih =>
    have later := ih (console.execute line).2
    rw [console.host_execute line] at later
    rw [scriptSteps, Host.replay_append]
    exact later

end Console

/-! ## The record -/

def BusEvent.Succeeds : BusEvent → Prop
  | submit _ _ answer => ∃ transfer, answer = .ok transfer
  | check _ answer => ∀ error, answer ≠ .failed error
  | cancel _ => True

def RecordedBus.Faultless {β : Type} (recorded : RecordedBus β) : Prop :=
  ∀ event ∈ recorded.events, event.Succeeds

namespace RecordedBus.Faultless

variable {β : Type} {recorded : RecordedBus β} (faultless : recorded.Faultless)
include faultless

theorem note (later : β) (event : BusEvent) (succeeds : event.Succeeds) :
    (recorded.note later event).Faultless := by
  intro noted member
  rcases List.mem_append.mp member with before | last
  · exact faultless noted before
  · rw [List.mem_singleton.mp last]
    exact succeeds

variable [Bus β]

theorem submit (device : DeviceId) (endpoint : Endpoint) (transfer : Transfer)
    (accepted : (Bus.submit device endpoint recorded.bus).1 = .ok transfer) :
    (Bus.submit device endpoint recorded).2.Faultless :=
  faultless.note _ _ ⟨transfer, accepted⟩

theorem check (transfer : Transfer)
    (answered : ∀ error, (Bus.check transfer recorded.bus).1 ≠ .failed error) :
    (Bus.check transfer recorded).2.Faultless :=
  faultless.note _ _ answered

theorem cancel (transfer : Transfer) : (Bus.cancel transfer recorded).Faultless :=
  faultless.note _ _ trivial

end RecordedBus.Faultless

namespace ReplayBus

theorem serves_check (bus : ReplayBus) (transfer : Transfer) (device : DeviceId)
    (flies : bus.inFlight[transfer]? = some device) (serves : bus.Serves device) :
    (∀ error, (bus.check transfer).1 ≠ .failed error) ∧ (bus.check transfer).2.Serves device := by
  rw [bus.check_of_serves transfer device flies serves]
  cases waiting : bus.reportsOf device with
  | nil =>
    refine ⟨?_, serves⟩
    rintro error ⟨⟩
  | cons raw reports =>
    let finished := ((bus.record (.check transfer)).setScript device { reports }).finish transfer
    have script : finished.devices[device]? = some { reports } := by
      change ((bus.record _).setScript device _).devices[device]? = _
      rw [getElem?_setScript, if_pos rfl]
    refine ⟨?_, serves_of_script script⟩
    rintro error ⟨⟩

end ReplayBus

namespace Session

variable {recorded : RecordedBus ReplayBus} (session : Session)

theorem faultless_advance (serves : recorded.bus.Serves session.device)
    (faultless : recorded.Faultless) : (session.advance recorded).2.2.Faultless := by
  rw [advance_eq]
  exact faultless.submit session.device session.endpoint _
    (recorded.bus.submit_of_serves session.device serves).1

theorem faultless_poll (keyMap : KeyMap) (quantizer : Quantizer) {policy : OverflowPolicy}
    (attended : session.Attended policy recorded.bus)
    (flies : ∀ transfer, session.transfer = some transfer →
      recorded.bus.inFlight[transfer]? = some session.device)
    (faultless : recorded.Faultless) : (session.poll keyMap quantizer recorded).2.2.Faultless := by
  obtain ⟨transfer, held⟩ := Option.isSome_iff_exists.mp attended.reading
  obtain ⟨answered, serves⟩ := recorded.bus.serves_check transfer session.device
    (flies transfer held) attended.serves
  have asked := faultless.check transfer answered
  change (Bus.check transfer recorded).2.bus.Serves session.device at serves
  rcases checked : Bus.check transfer recorded with ⟨answer, later⟩
  rw [checked] at asked serves
  simp only [poll, held, checked]
  cases answer with
  | pending => exact asked
  | complete raw => exact faultless_advance _ serves asked
  | failed error => exact faultless_advance session serves asked

theorem faultless_detach (faultless : recorded.Faultless) :
    (session.detach recorded).2.Faultless := by
  unfold detach
  split
  next => exact faultless
  next transfer held => exact faultless.cancel transfer

end Session

namespace Host

variable {recorded : Host (RecordedBus ReplayBus) SourceList} {settings : RegistrySettings}

theorem faultless_attach (device : DeviceInfo)
    (accepted : ∀ berth, recorded.registry.berthFor device = .ok berth →
      ∃ transfer, (Bus.submit device.id berth.endpoint recorded.bus.bus).1 = .ok transfer)
    (faultless : recorded.bus.Faultless) : (recorded.attach device).2.bus.Faultless := by
  rcases recorded.attach_cases device with
    ⟨_, _, same⟩ | ⟨berth, error, found, refused, _⟩ | ⟨berth, transfer, found, started, same⟩
  · rw [same]
    exact faultless
  · obtain ⟨transfer, started⟩ := accepted berth found
    have both := started.symm.trans refused
    cases both
  · rw [same]
    exact faultless.submit device.id berth.endpoint transfer started

theorem faultless_polls (handle : SessionHandle) (count : Nat)
    (tidy : (recorded.viewBus RecordedBus.bus).Tidy settings) (entry : RegistryEntry)
    (live : recorded.registry.entry? handle = some entry) (faultless : recorded.bus.Faultless) :
    (recorded.replayRecorded (.replicate count (.call (.poll handle)))).bus.Faultless := by
  induction count generalizing recorded entry with
  | zero => exact faultless
  | succ count ih =>
    have lives := ((recorded.registry.entry?_eq_some_iff handle entry).mp live).1
    obtain ⟨_, after, polled, made, still, -, refilled⟩ := tidy.refilled_poll handle entry live
    have viewed := poll_view RecordedBus.busView recorded handle
    have kept : (recorded.poll handle).2.viewBus RecordedBus.bus = after :=
      congrArg Prod.snd (viewed.symm.trans made)
    subst kept
    have asked : (recorded.poll handle).2.bus.Faultless := by
      rw [recorded.poll_of_entry? handle entry live]
      exact entry.session.faultless_poll _ _ (tidy.tended handle.slot entry lives).attended
        (tidy.reads.flies lives) faultless
    rw [List.replicate_succ]
    exact ih refilled.tidy polled still asked

end Host

namespace Console

variable {recorded : Host (RecordedBus ReplayBus) SourceList} {settings : RegistrySettings}
  {console : Console}

theorem faultless_attach (same : recorded.viewBus RecordedBus.bus = console.host)
    (tidy : console.host.Tidy settings) (faultless : recorded.bus.Faultless) (id : DeviceId)
    (vendor product : UInt16) :
    (recorded.replayRecorded
      [.script (.plug id), .call (.attach (announced id vendor product))]).bus.Faultless := by
  rw [← same] at tidy
  refine Host.faultless_attach (announced id vendor product) ?_ faultless
  intro berth found
  obtain ⟨transfer, started, -⟩ := tidy.attach_of_berth (announced id vendor product) berth found
  exact ⟨transfer, started⟩

theorem faultless_run (same : recorded.viewBus RecordedBus.bus = console.host)
    (tidy : console.host.Tidy settings) (faultless : recorded.bus.Faultless)
    (command : ConsoleCommand) :
    (recorded.replayRecorded (console.steps command)).bus.Faultless := by
  cases command with
  | attach id? vendor product =>
    simp only [steps]
    rw [Host.replayRecorded_append]
    have attached := faultless_attach same tidy faultless (id?.getD ⟨console.nextDevice⟩) vendor product
    split <;> exact attached
  | detach slot =>
    simp only [steps]
    rcases console.handleAt_cases slot with ⟨-, unheld⟩ | ⟨handle, entry, rfl, live, -, held⟩
    · rw [unheld]
      exact faultless
    · simp only [held, Registry.session?, live, Option.map_some]
      rw [← same] at live
      change (recorded.detach handle).2.bus.Faultless
      rw [recorded.detach_of_entry? handle entry live]
      exact entry.session.faultless_detach faultless
  | report slot raw =>
    simp only [steps]
    split
    · exact faultless
    · split
      · exact faultless
      · exact faultless
  | poll slot count =>
    simp only [steps]
    rcases console.handleAt_cases slot with ⟨-, unheld⟩ | ⟨handle, entry, rfl, live, -, held⟩
    · rw [unheld]
      exact faultless
    · rw [held]
      rw [← same] at tidy live
      exact Host.faultless_polls handle count tidy entry live faultless
  | list => exact faultless
  | bind binding =>
    obtain ⟨keyMap, bound⟩ := recorded.bind_snd binding
    change (recorded.bind binding).2.bus.Faultless
    rw [bound]
    exact faultless

/-- No read that a script submits is refused, and none that it asks about has failed. -/
theorem faultless_executeAll (lines : List String)
    (same : recorded.viewBus RecordedBus.bus = console.host) (tidy : console.host.Tidy settings)
    (faultless : recorded.bus.Faultless) :
    (recorded.replayRecorded (console.scriptSteps lines)).bus.Faultless := by
  -- The host is tidy between two lines, and need not be between two steps of one line.
  induction lines generalizing recorded console with
  | nil => exact faultless
  | cons line rest ih =>
    rw [scriptSteps, Host.replayRecorded_append]
    refine ih ?_ (follows_execute tidy line).tidy ?_
    · rw [Host.viewBus_replayRecorded, same, host_execute]
    · unfold lineSteps
      split
      next command parsed => exact faultless_run same tidy faultless command
      next => exact faultless

end Console

end Gamepad
