import Gamepad.Proofs.FreshDevices
import Gamepad.Proofs.PollLines
import Gamepad.Proofs.ScriptCalls

/-!
What the console keeps true of its bus and its sessions together, line after line: the devices on
the bus are those of the sessions, each session has a read in flight, and no failure is ordered.
Main statement: for this reason no read fails, and each poll line is answered in full, with the
reports that wait first.
-/

namespace Gamepad

/-! ## Reads in flight -/

namespace Registry

def heldReads (registry : Registry) : List Transfer :=
  registry.slots.filterMap fun slot => slot.entry.bind fun entry => entry.session.transfer

variable {registry : Registry}

theorem occupant?_getElem (number : Nat) (inside : number < registry.slots.length) :
    registry.occupant? number = registry.slots[number].entry := by
  rw [occupant?, List.getElem?_eq_getElem inside, Option.bind_some]

theorem reading?_of_held (number : Nat) (inside : number < registry.slots.length)
    (transfer : Transfer)
    (held : (registry.slots[number].entry.bind fun entry => entry.session.transfer) = some transfer) :
    ∃ device, registry.reading? number = some (transfer, device) := by
  obtain ⟨entry, lives, holds⟩ := Option.bind_eq_some_iff.mp held
  rw [← registry.occupant?_getElem number inside] at lives
  exact ⟨_, (registry.reading?_eq_some_iff number entry lives _ _).mpr ⟨holds, rfl⟩⟩

theorem mem_heldReads (transfer : Transfer) :
    transfer ∈ registry.heldReads ↔
      ∃ number device, registry.reading? number = some (transfer, device) := by
  rw [heldReads, List.mem_filterMap]
  constructor
  · rintro ⟨slot, member, held⟩
    obtain ⟨number, inside, rfl⟩ := List.getElem_of_mem member
    exact ⟨number, registry.reading?_of_held number inside transfer held⟩
  · rintro ⟨number, device, reading⟩
    obtain ⟨entry, lives, holds⟩ := Option.bind_eq_some_iff.mp reading
    have inside := registry.lt_capacity_of_occupant? number entry lives
    rw [registry.occupant?_getElem number inside] at lives
    obtain ⟨_, held, same⟩ := Option.map_eq_some_iff.mp holds
    cases same
    exact ⟨_, List.getElem_mem inside, by rw [lives, Option.bind_some, held]⟩

theorem length_heldReads
    (reading : ∀ number entry, registry.occupant? number = some entry →
      entry.session.transfer.isSome = true) :
    registry.heldReads.length = registry.size := by
  rw [heldReads, List.length_filterMap_eq_countP, size]
  apply List.countP_congr
  intro slot member
  obtain ⟨number, inside, rfl⟩ := List.getElem_of_mem member
  cases lives : registry.slots[number].entry with
  | none => rfl
  | some entry =>
    have holds := reading number entry ((registry.occupant?_getElem number inside).trans lives)
    simp [holds]

end Registry

variable {registry : Registry} {bus : ReplayBus}

theorem ReadsHeld.nodup_heldReads (reads : ReadsHeld registry bus) : registry.heldReads.Nodup := by
  rw [Registry.heldReads, List.Nodup, List.pairwise_filterMap, List.pairwise_iff_getElem]
  intro first second inside alsoInside before transfer held other alsoHeld same
  subst same
  obtain ⟨one, reading⟩ := registry.reading?_of_held first inside transfer held
  obtain ⟨two, alsoReading⟩ := registry.reading?_of_held second alsoInside transfer alsoHeld
  exact Nat.ne_of_lt before (reads.unshared first second transfer one two reading alsoReading)

theorem ReadsHeld.size_inFlight (reads : ReadsHeld registry bus)
    (reading : ∀ number entry, registry.occupant? number = some entry →
      entry.session.transfer.isSome = true) :
    bus.inFlight.size = registry.size := by
  have same : bus.inFlight.keys.Perm registry.heldReads := by
    refine (List.perm_ext_iff_of_nodup Std.ExtTreeMap.nodup_keys reads.nodup_heldReads).mpr ?_
    intro transfer
    rw [Std.ExtTreeMap.mem_keys, Std.ExtTreeMap.mem_iff_isSome_getElem?, registry.mem_heldReads,
      Option.isSome_iff_exists]
    constructor
    · rintro ⟨device, flies⟩
      obtain ⟨number, held⟩ := (reads.inFlight transfer device).mp flies
      exact ⟨number, device, held⟩
    · rintro ⟨number, device, held⟩
      exact ⟨device, (reads.inFlight transfer device).mpr ⟨number, held⟩⟩
  calc bus.inFlight.size = bus.inFlight.keys.length := Std.ExtTreeMap.length_keys.symm
    _ = registry.heldReads.length := same.length_eq
    _ = registry.size := registry.length_heldReads reading

/-! ## Polls -/

theorem KeyPoll.text_ne_pending (result : KeyPoll) (brought : result ≠ .pending) :
    result.text ≠ "pending" :=
  KeyPoll.text_injective.ne brought

theorem KeyStream.handOut_ne_pending (stream : KeyStream) : stream.handOut.1 ≠ .pending := by
  unfold handOut
  split
  · exact KeyPoll.noConfusion
  · exact KeyPoll.noConfusion

namespace PlainSession

variable (settings : RegistrySettings) (keyMap : KeyMap)

theorem pollLines_of_none (count : Nat) (session : PlainSession) (none : session.reports = []) :
    session.pollLines settings keyMap count = (.replicate count "pending", session) := by
  induction count with
  | zero => rfl
  | succ count ih =>
    have idle : session.poll settings keyMap = (.pending, session) := by
      simp only [poll, none]
    simp only [pollLines, idle, ih]
    rfl

/-- The reports that wait are taken in one by one, and the polls after them find none. -/
theorem pollLines_fresh (count : Nat) (session : PlainSession) :
    ∃ fresh, (session.pollLines settings keyMap count).1 =
        fresh ++ .replicate (count - fresh.length) "pending" ∧
      fresh.length = min count session.reports.length ∧ "pending" ∉ fresh := by
  induction count generalizing session with
  | zero => exact ⟨[], rfl, (Nat.zero_min _).symm, List.not_mem_nil⟩
  | succ count ih =>
    cases waiting : session.reports with
    | nil =>
      rw [session.pollLines_of_none settings keyMap (count + 1) waiting]
      exact ⟨[], rfl, (Nat.min_zero _).symm, List.not_mem_nil⟩
    | cons raw rest =>
      have polled : ∃ stream : KeyStream, session.poll settings keyMap =
          (stream.handOut.1, { session with stream := stream.handOut.2, reports := rest }) := by
        simp only [poll, waiting]
        exact ⟨_, rfl⟩
      obtain ⟨stream, polled⟩ := polled
      obtain ⟨fresh, lines, length, unpending⟩ :=
        ih { session with stream := stream.handOut.2, reports := rest }
      have brought := stream.handOut.1.text_ne_pending stream.handOut_ne_pending
      refine ⟨stream.handOut.1.text :: fresh, ?_, ?_, ?_⟩
      · simp only [pollLines, polled, lines, List.cons_append, List.length_cons,
          Nat.add_sub_add_right]
      · simp only [List.length_cons, length, Nat.succ_min_succ]
      · rw [List.mem_cons, not_or]
        exact ⟨brought.symm, unpending⟩

end PlainSession

def PlainConsole.Unreported (slot : Nat) (console : PlainConsole) : Prop :=
  ∀ session, console.occupant? slot = some session → session.reports = []

/-- Only a report line for the slot brings a report to it. -/
theorem PlainConsole.unreported_change {settings : RegistrySettings} {before after : PlainConsole}
    {command : ConsoleCommand} (change : Change settings before command after) (slot : Nat)
    (unaddressed : ∀ raw, command ≠ .report slot raw) (unreported : before.Unreported slot) :
    after.Unreported slot := by
  intro session found
  rcases change.occupant?_cases slot session found with
    old | ⟨device, rfl, -⟩ | ⟨raw, held, addressed, -, -⟩ | ⟨count, held, present, rfl⟩
  · exact unreported session old
  · rfl
  · exact absurd addressed (unaddressed raw)
  · have none := unreported held present
    rw [held.pollLines_of_none settings before.keyMap count none]
    exact none

/-! ## The console between two lines -/

namespace Console

structure Served (console : Console) : Prop where
  plugged : ∀ device, console.host.bus.isPlugged device = true ↔
    ∃ handle session, console.host.registry.session? handle = some session ∧
      session.device = device
  reading : ∀ handle session, console.host.registry.session? handle = some session →
    ∃ transfer, session.transfer = some transfer ∧
      console.host.bus.inFlight[transfer]? = some session.device
  counted : console.host.bus.inFlight.size = console.host.registry.size
  unfailing : ∀ (device : DeviceId) (script : DeviceScript),
    console.host.bus.devices[device]? = some script →
    script.failingSubmits = 0 ∧ script.failingReads = 0

variable {settings : RegistrySettings} {console : Console}

theorem served_of_tidy (tidy : console.host.Tidy settings) : console.Served where
  plugged device := by
    rw [ReplayBus.isPlugged, Std.ExtTreeMap.contains_eq_isSome_getElem?, Option.isSome_iff_exists]
    constructor
    · rintro ⟨script, plugged⟩
      obtain ⟨number, entry, lives, same⟩ := tidy.owned device script plugged
      exact ⟨_, entry.session, console.host.registry.session?_of_occupant? number entry lives, same⟩
    · rintro ⟨handle, session, live, rfl⟩
      obtain ⟨entry, lives, rfl⟩ :=
        console.host.registry.exists_occupant?_of_session? handle session live
      exact ⟨_, (tidy.tended handle.slot entry lives).attended.serves⟩
  reading handle session live := by
    obtain ⟨entry, lives, rfl⟩ :=
      console.host.registry.exists_occupant?_of_session? handle session live
    obtain ⟨transfer, held⟩ :=
      Option.isSome_iff_exists.mp (tidy.tended handle.slot entry lives).attended.reading
    exact ⟨transfer, held, tidy.reads.flies lives transfer held⟩
  counted := tidy.reads.size_inFlight fun number entry lives =>
    (tidy.tended number entry lives).attended.reading
  unfailing device script plugged := by
    obtain ⟨number, entry, lives, rfl⟩ := tidy.owned device script plugged
    have serves := (tidy.tended number entry lives).attended.serves
    rw [ReplayBus.Serves, plugged] at serves
    cases serves
    exact ⟨rfl, rfl⟩

theorem execute_poll (tidy : console.host.Tidy settings) (line : String) (slot count : Nat)
    (parsed : ConsoleCommand.parse line = .ok (some (.poll slot count))) (entry : RegistryEntry)
    (lives : console.host.registry.occupant? slot = some entry) :
    (console.execute line).1 = .ok ((entry.session.plain console.host.bus).pollLines settings
      console.plain.keyMap count).1 := by
  have held : console.plain.occupant? slot = some (entry.session.plain console.host.bus) := by
    rw [occupant?_plain, console.host.plainSession?_of_occupant? slot entry lives]
  rw [(follows_execute tidy line).answer]
  simp only [PlainConsole.execute, parsed, PlainConsole.run, PlainConsole.poll, held]

theorem occupant?_of_handleAt? (console : Console) (slot : Nat) (handle : SessionHandle)
    (held : console.host.registry.handleAt? slot = some handle) :
    ∃ entry, console.host.registry.occupant? slot = some entry ∧
      console.host.registry.session? handle = some entry.session := by
  rw [Registry.handleAt?_eq, Option.map_eq_some_iff] at held
  obtain ⟨entry, lives, rfl⟩ := held
  exact ⟨entry, lives, console.host.registry.session?_of_occupant? slot entry lives⟩

theorem unreported_executeAll (tidy : console.host.Tidy settings) (slot : Nat)
    (empty : console.host.registry.handleAt? slot = none) (lines : List String)
    (unaddressed : ∀ line ∈ lines, ∀ raw,
      ConsoleCommand.parse line ≠ .ok (some (.report slot raw))) :
    (console.executeAll lines).2.plain.Unreported slot := by
  have start : console.plain.Unreported slot := by
    intro session found
    rw [Registry.handleAt?_eq, Option.map_eq_none_iff] at empty
    rw [occupant?_plain, Host.plainSession?, empty] at found
    cases found
  refine kept_executeAll (PlainConsole.Unreported slot) lines console tidy ?_ start
  intro line member command parsed before after change
  refine PlainConsole.unreported_change change slot ?_
  rintro raw rfl
  exact unaddressed line member raw parsed

/-- After any lines the devices on the bus are those of the sessions, each session has a read in
flight for its device, there are no other reads, and no failure is ordered. Of the reads that the
lines submitted none was refused, and of those they asked about none had failed. Each poll of a
session is answered, first those for which a report waits. And whoever gets an empty slot has
nothing to poll until a report line names the slot. -/
theorem sessions_are_served (settings : RegistrySettings) (keyMap : KeyMap) (lines : List String) :
    let start := create (.create settings keyMap)
    let console := (start.executeAll lines).2
    let recorded := (Host.create settings keyMap (RecordedBus.start {}) {}).replayRecorded
      (start.scriptSteps lines)
    console.Served ∧
    (recorded.viewBus RecordedBus.bus = console.host ∧ recorded.bus.Faultless) ∧
    (∀ line slot count handle, ConsoleCommand.parse line = .ok (some (.poll slot count)) →
      console.host.registry.handleAt? slot = some handle →
      ∃ session fresh, console.host.registry.session? handle = some session ∧
        (console.execute line).1 = .ok (fresh ++ .replicate (count - fresh.length) "pending") ∧
        fresh.length = min count (console.host.bus.reportsOf session.device).length ∧
        "pending" ∉ fresh) ∧
    ∀ later line slot count handle, console.host.registry.handleAt? slot = none →
      (∀ earlier ∈ later, ∀ raw, ConsoleCommand.parse earlier ≠ .ok (some (.report slot raw))) →
      ConsoleCommand.parse line = .ok (some (.poll slot count)) →
      (console.executeAll later).2.host.registry.handleAt? slot = some handle →
      ((console.executeAll later).2.execute line).1 = .ok (.replicate count "pending") := by
  intro start console recorded
  have tidyStart : start.host.Tidy settings := Host.tidy_create settings keyMap
  have tidy : console.host.Tidy settings := tidy_executeAll lines start tidyStart
  refine ⟨served_of_tidy tidy, ⟨?_, ?_⟩, ?_, ?_⟩
  · exact (Host.viewBus_replayRecorded _ _).trans (host_executeAll lines start).symm
  · refine faultless_executeAll lines rfl tidyStart ?_
    intro event member
    cases member
  · intro line slot count handle parsed held
    obtain ⟨entry, lives, live⟩ := console.occupant?_of_handleAt? slot handle held
    obtain ⟨fresh, answer, length, unpending⟩ :=
      (entry.session.plain console.host.bus).pollLines_fresh settings console.plain.keyMap count
    refine ⟨entry.session, fresh, live, ?_, length, unpending⟩
    rw [execute_poll tidy line slot count parsed entry lives, answer]
  · intro later line slot count handle empty unaddressed parsed held
    have unreported := unreported_executeAll tidy slot empty later unaddressed
    have tidyLater := tidy_executeAll later console tidy
    obtain ⟨entry, lives, -⟩ := (console.executeAll later).2.occupant?_of_handleAt? slot handle held
    have none := unreported (entry.session.plain (console.executeAll later).2.host.bus) (by
      rw [occupant?_plain, Host.plainSession?_of_occupant? _ slot entry lives])
    rw [execute_poll tidyLater line slot count parsed entry lives,
      PlainSession.pollLines_of_none settings _ count _ none]

theorem report_ends_with_its_session :
    let lines := ["attach 046d:c216 7", "report 0 7f7f7f7f18000000", "attach 046d:c216 8",
      "report 1 7f7f7f7f28000000", "detach 0"]
    let console := ((create (.create {} .empty)).executeAll lines).2
    (∃ brought, (console.execute "poll 1 2").1 = .ok [brought, "pending"] ∧ brought ≠ "pending") ∧
    ((console.executeAll ["attach 046d:c216 7"]).2.execute "poll 0 2").1 =
      .ok ["pending", "pending"] := by
  intro lines console
  obtain ⟨-, -, answered, unreported⟩ := sessions_are_served {} .empty lines
  constructor
  · have held : console.host.registry.handleAt? 1 = some { slot := 1, generation := 0 } := rfl
    obtain ⟨session, fresh, live, answer, length, unpending⟩ :=
      answered "poll 1 2" 1 2 { slot := 1, generation := 0 } rfl held
    have opened : console.host.registry.session? { slot := 1, generation := 0 } =
        some (.opened ⟨8⟩ .rumblePad (.interruptIn 1) .dropOldest ⟨1⟩) := rfl
    cases live.symm.trans opened
    have waiting : (console.host.bus.reportsOf ⟨8⟩).length = 1 := by decide +kernel
    have single : fresh.length = 1 := length.trans (congrArg (min 2) waiting)
    obtain ⟨brought, rfl⟩ := List.length_eq_one_iff.mp single
    exact ⟨brought, answer, fun same => unpending (List.mem_singleton.mpr same.symm)⟩
  · refine unreported ["attach 046d:c216 7"] "poll 0 2" 0 2 { slot := 0, generation := 1 } rfl ?_ rfl rfl
    intro earlier member raw parsed
    rw [List.mem_singleton.mp member] at parsed
    cases parsed

end Console

end Gamepad
