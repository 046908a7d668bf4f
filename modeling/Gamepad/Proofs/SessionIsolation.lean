import Gamepad.Proofs.LiveSessions
import Gamepad.Proofs.SessionOutlook
import Gamepad.Proofs.StaleHandles

/-!
Sessions that share one bus do not reach one another. A step that is about other sessions leaves
what a session sees, and a step about the session does the same wherever it sees the same. Main
statement: leaving out every step about others changes nothing for a session, as long as it lives.
-/

namespace Gamepad

namespace ReplayStep

/-- The step is about this handle, about this device, or about no session in particular. -/
def concerns (handle : SessionHandle) (device : DeviceId) : ReplayStep → Bool
  | .script change => change.device = device
  | .call (.attach announced) => announced.id = device
  | .call (.announce announced) => announced.id = device
  | .call (.detach other) => other = handle
  | .call (.detachDevice other) => other = device
  | .call .shutdown => true
  | .call (.poll other) => other = handle
  | .call (.bind _) => true

def polls (handle : SessionHandle) : ReplayStep → Bool
  | .call (.poll other) => other = handle
  | _ => false

theorem concerns_of_polls (step : ReplayStep) (handle : SessionHandle) (device : DeviceId)
    (polled : step.polls handle = true) : step.concerns handle device = true := by
  cases step with
  | script change => cases polled
  | call made =>
    cases made with
    | poll other => exact polled
    | _ => cases polled

end ReplayStep

/-- All that decides how the session of a handle goes on. -/
structure Seat where
  outlook : Outlook
  keyMap : KeyMap
  quantizer : Quantizer

def Seat.device (seat : Seat) : DeviceId := seat.outlook.device

namespace Host

variable {ι : Type}

def seat? (host : Host ReplayBus ι) (handle : SessionHandle) : Option Seat :=
  (host.registry.session? handle).map fun session =>
    { outlook := session.outlook host.bus
      keyMap := host.registry.keyMap
      quantizer := host.registry.settings.quantizer }

def pollAnswers [InputLayer ι] (handle : SessionHandle) :
    List ReplayStep → Host ReplayBus ι → List (Except RegistryError KeyPoll)
  | [], _ => []
  | step :: rest, host =>
    if step.polls handle then
      (host.poll handle).1 :: pollAnswers handle rest (host.step step.onHost)
    else pollAnswers handle rest (host.step step.onHost)

structure Regular (settings : RegistrySettings) (host : Host ReplayBus ι) : Prop where
  kept : host.registry.Kept settings
  reads : ReadsHeld host.registry host.bus

theorem seat?_eq_some_iff (host : Host ReplayBus ι) (handle : SessionHandle) (seat : Seat) :
    host.seat? handle = some seat ↔
      ∃ entry, host.registry.entry? handle = some entry ∧
        entry.session.outlook host.bus = seat.outlook ∧ host.registry.keyMap = seat.keyMap ∧
        host.registry.settings.quantizer = seat.quantizer := by
  rw [seat?, Registry.session?, Option.map_map, Option.map_eq_some_iff]
  constructor
  · rintro ⟨entry, live, rfl⟩
    exact ⟨entry, live, rfl, rfl, rfl⟩
  · rintro ⟨entry, live, outlook, keyMap, quantizer⟩
    exact ⟨entry, live, (Seat.mk.injEq ..).mpr ⟨outlook, keyMap, quantizer⟩⟩

theorem exists_entry_of_seat? {host : Host ReplayBus ι} {handle : SessionHandle} {seat : Seat}
    (seated : host.seat? handle = some seat) :
    ∃ entry, host.registry.entry? handle = some entry ∧ entry.session.device = seat.device := by
  obtain ⟨entry, live, outlook, -⟩ := (host.seat?_eq_some_iff handle seat).mp seated
  exact ⟨entry, live, congrArg Outlook.device outlook⟩

theorem seat?_of_frame {host later : Host ReplayBus ι} {handle : SessionHandle} {seat : Seat}
    (seated : host.seat? handle = some seat)
    (entries : later.registry.entry? handle = host.registry.entry? handle)
    (scripts : later.bus.devices[seat.device]? = host.bus.devices[seat.device]?)
    (keyMap : later.registry.keyMap = host.registry.keyMap)
    (settings : later.registry.settings = host.registry.settings) :
    later.seat? handle = some seat := by
  obtain ⟨entry, live, outlook, rules⟩ := (host.seat?_eq_some_iff handle seat).mp seated
  have device : entry.session.device = seat.device := congrArg Outlook.device outlook
  rw [← device] at scripts
  refine (later.seat?_eq_some_iff handle seat).mpr ⟨entry, entries.trans live, ?_, ?_⟩
  · rw [← outlook, Session.outlook, scripts]
    rfl
  · rw [keyMap, settings]
    exact rules

variable [InputLayer ι] {settings : RegistrySettings} {host twin : Host ReplayBus ι}
  {handle : SessionHandle} {seat : Seat}

theorem regular_step (regular : host.Regular settings) (step : ReplayStep) :
    (host.step step.onHost).Regular settings where
  kept := kept_run settings [step.onHost] host regular.kept
  reads := host.reads_held_replay [step] regular.reads

/-! ## Steps about others -/

theorem entry?_detach_other (host : Host ReplayBus ι) (other : SessionHandle)
    (apart : other ≠ handle) :
    Registry.entry? (host.detach other).2.registry handle = host.registry.entry? handle := by
  cases live : host.registry.entry? other with
  | none => rw [host.detach_of_stale other live]
  | some entry =>
    rw [host.detach_of_entry? other entry live]
    exact (host.registry.entry?_vacate other handle entry live).trans (if_neg apart)

theorem seat?_detach_other (seated : host.seat? handle = some seat) (other : SessionHandle)
    (apart : other ≠ handle) : (host.detach other).2.seat? handle = some seat := by
  have entries := host.entry?_detach_other other apart
  cases live : host.registry.entry? other with
  | none =>
    rw [host.detach_of_stale other live]
    exact seated
  | some entry =>
    rw [host.detach_of_entry? other entry live] at entries ⊢
    refine seat?_of_frame seated entries ?_ rfl rfl
    exact congrArg (fun devices => devices[seat.device]?) (entry.session.detach_devices host.bus)

theorem seat?_attach_other (seated : host.seat? handle = some seat) (device : DeviceInfo)
    (apart : device.id ≠ seat.device) : (host.attach device).2.seat? handle = some seat := by
  have scripts := host.bus.submit_other device.id seat.device apart
  rcases host.attach_cases device with ⟨_, _, same⟩ | ⟨_, _, _, _, same⟩ | ⟨berth, _, found, _, same⟩
  · rw [same]
    exact seated
  · rw [same]
    exact seat?_of_frame seated rfl scripts rfl rfl
  · rw [same]
    have free := (host.registry.berthFor_eq_ok device berth found).2
    obtain ⟨inside, empty, -, current⟩ := host.registry.freeHandle?_eq_some _ free
    have others : berth.handle ≠ handle := by
      rintro rfl
      obtain ⟨entry, live, -⟩ := exists_entry_of_seat? seated
      have lives := ((host.registry.entry?_eq_some_iff _ entry).mp live).1
      rw [empty] at lives
      cases lives
    refine seat?_of_frame seated ?_ scripts rfl rfl
    exact (host.registry.entry?_occupy berth.handle handle _ inside current.symm).trans (if_neg others)

omit [InputLayer ι] in
theorem seat?_poll_other (regular : host.Regular settings) (seated : host.seat? handle = some seat)
    (other : SessionHandle) (apart : other ≠ handle) :
    (host.poll other).2.seat? handle = some seat := by
  cases live : host.registry.entry? other with
  | none =>
    rw [host.poll_of_stale other live]
    exact seated
  | some neighbour =>
    rw [host.poll_of_entry? other neighbour live]
    obtain ⟨entry, mine, device⟩ := exists_entry_of_seat? seated
    have lives := ((host.registry.entry?_eq_some_iff other neighbour).mp live).1
    have alsoLives := ((host.registry.entry?_eq_some_iff handle entry).mp mine).1
    -- Two sessions of one device would be one session, with one handle.
    have devices : neighbour.session.device ≠ seat.device := by
      intro shared
      have slots := regular.kept.single _ _ neighbour entry lives alsoLives (shared.trans device.symm)
      exact apart (host.registry.eq_of_slot other handle
        (host.registry.contains_of_entry? other neighbour live)
        (host.registry.contains_of_entry? handle entry mine) slots)
    refine seat?_of_frame seated ?_ ?_ rfl rfl
    · exact (host.registry.entry?_replace other handle neighbour _ live).trans (if_neg apart)
    · exact neighbour.session.poll_other _ _ host.bus seat.device devices (regular.reads.flies lives)

/-- A step that is not about a session leaves what the session sees. -/
theorem seat?_aside (regular : host.Regular settings) (seated : host.seat? handle = some seat)
    (step : ReplayStep) (aside : step.concerns handle seat.device = false) :
    (host.step step.onHost).seat? handle = some seat := by
  cases step with
  | script change =>
    exact seat?_of_frame seated rfl
      (host.bus.apply_other change seat.device (of_decide_eq_false aside)) rfl rfl
  | call made =>
    cases made with
    | attach device => exact seat?_attach_other seated device (of_decide_eq_false aside)
    | announce device => exact seat?_attach_other seated device (of_decide_eq_false aside)
    | detach other => exact seat?_detach_other seated other (of_decide_eq_false aside)
    | poll other => exact seat?_poll_other regular seated other (of_decide_eq_false aside)
    | detachDevice device =>
      change (host.detachDevice device).2.seat? handle = some seat
      unfold detachDevice
      split
      next other found =>
        refine seat?_detach_other seated other ?_
        rintro rfl
        obtain ⟨entry, live, same⟩ := host.registry.findDevice?_eq_some device _ found
        obtain ⟨_, mine, own⟩ := exists_entry_of_seat? seated
        cases live.symm.trans mine
        exact of_decide_eq_false aside (same.symm.trans own)
      next => exact seated
    | shutdown => cases aside
    | bind binding => cases aside

/-! ## Steps about the session -/

theorem mem_ended (handles : List SessionHandle) (host : Host ReplayBus ι)
    (live : host.registry.contains handle = true) (member : handle ∈ handles) :
    handle ∈ ended handles host := by
  induction handles generalizing host with
  | nil => cases member
  | cons other rest ih =>
    by_cases same : other = handle
    · subst same
      obtain ⟨entry, present⟩ := Option.isSome_iff_exists.mp live
      rw [ended, host.detach_of_entry? other entry present, if_pos rfl]
      exact List.mem_cons_self
    · have still : (host.detach other).2.registry.contains handle = true := by
        rw [Registry.contains, host.entry?_detach_other other same]
        exact live
      have later := ih _ still (List.mem_of_ne_of_mem (Ne.symm same) member)
      unfold ended
      split
      next => exact List.mem_cons_of_mem _ later
      next => exact later

theorem not_mem_detaches (made : HostCall) (live : host.registry.contains handle = true)
    (unended : host.endedIn handle.slot (.call made) = 0) :
    handle ∉ made.detaches host.registry := by
  intro member
  have ends := List.countP_eq_zero.mp unended handle (mem_ended _ host live member)
  exact ends (decide_eq_true rfl)

omit [InputLayer ι] in
theorem findDevice?_of_seat? (regular : host.Regular settings)
    (seated : host.seat? handle = some seat) :
    host.registry.findDevice? seat.device = some handle := by
  obtain ⟨entry, live, device⟩ := exists_entry_of_seat? seated
  refine (regular.kept.findDevice?_eq_some_iff seat.device handle).mpr ⟨entry.session, ?_, device⟩
  rw [Registry.session?, live]
  rfl

theorem seat?_attach_own (regular : host.Regular settings) (seated : host.seat? handle = some seat)
    (device : DeviceInfo) (own : device.id = seat.device) :
    (host.attach device).2.seat? handle = some seat := by
  have taken := findDevice?_of_seat? regular seated
  rw [← own] at taken
  have homeless : ∀ berth, host.registry.berthFor device ≠ .ok berth := by
    intro berth found
    have absent := (host.registry.berthFor_eq_ok device berth found).1
    rw [taken] at absent
    cases absent
  rcases host.attach_cases device with ⟨_, _, same⟩ | ⟨berth, _, found, _⟩ | ⟨berth, _, found, _⟩
  · rw [same]
    exact seated
  · exact absurd found (homeless berth)
  · exact absurd found (homeless berth)

omit [InputLayer ι] in
theorem poll_of_seat? (regular : host.Regular settings) (seated : host.seat? handle = some seat) :
    ∃ session : Session, session.outlook host.bus = seat.outlook ∧
      (∀ transfer, session.transfer = some transfer →
        host.bus.inFlight[transfer]? = some session.device) ∧
      let polled := session.poll seat.keyMap seat.quantizer host.bus
      (host.poll handle).1 = .ok polled.1 ∧
        (host.poll handle).2.seat? handle =
          some { seat with outlook := polled.2.1.outlook polled.2.2 } := by
  rcases seat with ⟨outlook, keyMap, quantizer⟩
  obtain ⟨entry, live, rfl, rfl, rfl⟩ := (host.seat?_eq_some_iff handle _).mp seated
  have lives := ((host.registry.entry?_eq_some_iff handle entry).mp live).1
  have still := host.registry.entry?_replace handle handle entry
    { entry with
      session :=
        (entry.session.poll host.registry.keyMap host.registry.settings.quantizer host.bus).2.1 }
    live
  rw [if_pos rfl] at still
  refine ⟨entry.session, rfl, regular.reads.flies lives, ?_⟩
  rw [host.poll_of_entry? handle entry live]
  exact ⟨rfl, (seat?_eq_some_iff _ handle _).mpr ⟨_, still, rfl, rfl, rfl⟩⟩

omit [InputLayer ι] in
theorem poll_agrees (regular : host.Regular settings) (alsoRegular : twin.Regular settings)
    (seated : host.seat? handle = some seat) (alsoSeated : twin.seat? handle = some seat) :
    (host.poll handle).1 = (twin.poll handle).1 ∧
      ∃ later, (host.poll handle).2.seat? handle = some later ∧
        (twin.poll handle).2.seat? handle = some later ∧ later.device = seat.device := by
  obtain ⟨session, outlook, flies, answer, after⟩ := poll_of_seat? regular seated
  obtain ⟨other, alsoOutlook, alsoFlies, alsoAnswer, alsoAfter⟩ := poll_of_seat? alsoRegular alsoSeated
  obtain ⟨answers, outlooks⟩ := Session.poll_agrees seat.keyMap seat.quantizer
    (outlook.trans alsoOutlook.symm) flies alsoFlies
  rw [← answers] at alsoAnswer
  rw [← outlooks] at alsoAfter
  refine ⟨answer.trans alsoAnswer.symm, _, after, alsoAfter, ?_⟩
  calc (session.poll seat.keyMap seat.quantizer host.bus).2.1.device = session.device :=
        session.device_poll seat.keyMap seat.quantizer host.bus
    _ = seat.device := congrArg Outlook.device outlook

omit [InputLayer ι] in
theorem bind_agrees (seated : host.seat? handle = some seat) (alsoSeated : twin.seat? handle = some seat)
    (binding : Binding) :
    ∃ later, (host.bind binding).2.seat? handle = some later ∧
      (twin.bind binding).2.seat? handle = some later ∧ later.device = seat.device := by
  obtain ⟨entry, live, outlook, keyMap, quantizer⟩ := (host.seat?_eq_some_iff handle seat).mp seated
  obtain ⟨other, alsoLive, alsoOutlook, alsoKeyMap, alsoQuantizer⟩ :=
    (twin.seat?_eq_some_iff handle seat).mp alsoSeated
  simp only [bind, keyMap, alsoKeyMap]
  cases binding.apply seat.keyMap with
  | error error => exact ⟨seat, seated, alsoSeated, rfl⟩
  | ok bound =>
    refine ⟨{ seat with keyMap := bound.2 }, ?_, ?_, rfl⟩
    · exact (seat?_eq_some_iff _ handle _).mpr ⟨entry, live, outlook, rfl, quantizer⟩
    · exact (seat?_eq_some_iff _ handle _).mpr ⟨other, alsoLive, alsoOutlook, rfl, alsoQuantizer⟩

omit [InputLayer ι] in
theorem script_agrees (seated : host.seat? handle = some seat)
    (alsoSeated : twin.seat? handle = some seat) (change : BusStep) :
    ∃ later, ({ host with bus := host.bus.apply change } : Host _ ι).seat? handle = some later ∧
      ({ twin with bus := twin.bus.apply change } : Host _ ι).seat? handle = some later ∧
      later.device = seat.device := by
  obtain ⟨entry, live, outlook, rules⟩ := (host.seat?_eq_some_iff handle seat).mp seated
  obtain ⟨other, alsoLive, alsoOutlook, alsoRules⟩ := (twin.seat?_eq_some_iff handle seat).mp alsoSeated
  have outlooks := Session.apply_agrees (outlook.trans alsoOutlook.symm) change
  refine ⟨{ seat with outlook := entry.session.outlook (host.bus.apply change) }, ?_, ?_, ?_⟩
  · exact (seat?_eq_some_iff _ handle _).mpr ⟨entry, live, rfl, rules⟩
  · exact (seat?_eq_some_iff _ handle _).mpr ⟨other, alsoLive, outlooks.symm, alsoRules⟩
  · have device : entry.session.device = seat.device := congrArg Outlook.device outlook
    exact device

/-- A step about a session that does not end it does the same wherever the session sees the same. -/
theorem step_agrees (regular : host.Regular settings) (alsoRegular : twin.Regular settings)
    (seated : host.seat? handle = some seat) (alsoSeated : twin.seat? handle = some seat)
    (step : ReplayStep) (own : step.concerns handle seat.device = true)
    (unended : host.endedIn handle.slot step.onHost = 0) :
    ∃ later, (host.step step.onHost).seat? handle = some later ∧
      (twin.step step.onHost).seat? handle = some later ∧ later.device = seat.device := by
  obtain ⟨entry, present, -⟩ := exists_entry_of_seat? seated
  have live := host.registry.contains_of_entry? handle entry present
  cases step with
  | script change => exact script_agrees seated alsoSeated change
  | call made =>
    have spared := not_mem_detaches made live unended
    cases made with
    | attach device =>
      exact ⟨seat, seat?_attach_own regular seated device (of_decide_eq_true own),
        seat?_attach_own alsoRegular alsoSeated device (of_decide_eq_true own), rfl⟩
    | announce device =>
      exact ⟨seat, seat?_attach_own regular seated device (of_decide_eq_true own),
        seat?_attach_own alsoRegular alsoSeated device (of_decide_eq_true own), rfl⟩
    | poll other =>
      cases of_decide_eq_true own
      exact (poll_agrees regular alsoRegular seated alsoSeated).2
    | bind binding => exact bind_agrees seated alsoSeated binding
    -- What is left would end the session.
    | detach other =>
      cases of_decide_eq_true own
      exact absurd List.mem_cons_self spared
    | detachDevice device =>
      cases of_decide_eq_true own
      have found := findDevice?_of_seat? regular seated
      refine absurd ?_ spared
      rw [HostCall.detaches, found]
      exact List.mem_cons_self
    | shutdown => exact absurd ((host.registry.mem_handles handle).mpr live) spared

/-! ## Runs -/

/-- Two runs from hosts in which a handle sees the same, the second without the steps about others. -/
theorem replay_agrees (steps : List ReplayStep) (host twin : Host ReplayBus ι) (seat : Seat)
    (regular : host.Regular settings) (alsoRegular : twin.Regular settings)
    (seated : host.seat? handle = some seat) (alsoSeated : twin.seat? handle = some seat)
    (unended : host.detachCount handle.slot (steps.map ReplayStep.onHost) = 0) :
    pollAnswers handle steps host =
        pollAnswers handle (steps.filter (ReplayStep.concerns handle seat.device)) twin ∧
      ∃ later, (host.replay steps).seat? handle = some later ∧
        (twin.replay (steps.filter (ReplayStep.concerns handle seat.device))).seat? handle =
          some later := by
  -- The two hosts share the seat and nothing more, so each step is taken by both or by the first.
  induction steps generalizing host twin seat with
  | nil => exact ⟨rfl, seat, seated, alsoSeated⟩
  | cons step rest ih =>
    obtain ⟨spared, later⟩ := Nat.add_eq_zero_iff.mp unended
    cases own : step.concerns handle seat.device with
    | false =>
      have unpolled : step.polls handle ≠ true := by
        intro polled
        have concerned := step.concerns_of_polls handle seat.device polled
        rw [own] at concerned
        cases concerned
      have still := seat?_aside regular seated step own
      have following := ih (host.step step.onHost) twin seat (regular_step regular step) alsoRegular
        still alsoSeated later
      rw [List.filter_cons_of_neg (by rw [own]; exact Bool.false_ne_true), pollAnswers,
        if_neg unpolled]
      exact following
    | true =>
      obtain ⟨next, here, there, device⟩ :=
        step_agrees regular alsoRegular seated alsoSeated step own spared
      have following := ih (host.step step.onHost) (twin.step step.onHost) next
        (regular_step regular step) (regular_step alsoRegular step) here there later
      have answers := (poll_agrees regular alsoRegular seated alsoSeated).1
      rw [device] at following
      rw [List.filter_cons_of_pos own, pollAnswers, pollAnswers, following.1, answers]
      exact ⟨rfl, following.2⟩

/-- While a session lives, its polls bring the same as if only the steps about its handle and its
device had been made, and it ends up with the same queue, the same report to compare with, and a
read in flight in both runs or in neither. -/
theorem session_isolated (settings : RegistrySettings) (keyMap : KeyMap) (inputs : ι)
    (before steps : List ReplayStep) (handle : SessionHandle) (session : Session)
    (live : ((create settings keyMap ({} : ReplayBus) inputs).replay before).registry.session? handle =
      some session)
    (unended : ((create settings keyMap ({} : ReplayBus) inputs).replay before).detachCount handle.slot
      (steps.map ReplayStep.onHost) = 0) :
    let host := (create settings keyMap ({} : ReplayBus) inputs).replay before
    let own := steps.filter (ReplayStep.concerns handle session.device)
    pollAnswers handle steps host = pollAnswers handle own host ∧
      ∃ one other, (host.replay steps).registry.session? handle = some one ∧
        (host.replay own).registry.session? handle = some other ∧
        one.queue = other.queue ∧ one.previous = other.previous ∧
        one.transfer.isSome = other.transfer.isSome := by
  intro host own
  have regular : host.Regular settings :=
    { kept := kept_run settings _ _ (Registry.kept_create settings keyMap)
      reads := reads_held_replay _ before (reads_held_create settings keyMap inputs) }
  have seated : host.seat? handle = some
      { outlook := session.outlook host.bus
        keyMap := host.registry.keyMap
        quantizer := host.registry.settings.quantizer } := by
    rw [seat?, live]
    rfl
  obtain ⟨answers, later, here, there⟩ :=
    replay_agrees steps host host _ regular regular seated seated unended
  refine ⟨answers, ?_⟩
  obtain ⟨one, opened, seen⟩ := Option.map_eq_some_iff.mp here
  obtain ⟨other, alsoOpened, alsoSeen⟩ := Option.map_eq_some_iff.mp there
  have outlooks : one.outlook _ = other.outlook _ := congrArg Seat.outlook (seen.trans alsoSeen.symm)
  have sessions : ({ one with transfer := none } : Session) = { other with transfer := none } :=
    congrArg Outlook.session outlooks
  exact ⟨one, other, opened, alsoOpened, congrArg (fun session => session.queue) sessions,
    congrArg (fun session => session.previous) sessions, congrArg Outlook.reads outlooks⟩

theorem session_isolated_from_neighbour :
    let raw : RawReport := #v[127, 127, 127, 127, 0x18, 0, 0, 0]
    let pad (id : DeviceId) : DeviceInfo :=
      { id, vendor := 0x046d, product := 0xc216, endpoints := [.interruptIn 1] }
    let first : SessionHandle := { slot := 0, generation := 0 }
    let second : SessionHandle := { slot := 1, generation := 0 }
    let before : List ReplayStep :=
      [.script (.plug ⟨1⟩), .script (.plug ⟨2⟩), .call (.attach (pad ⟨1⟩)),
        .call (.attach (pad ⟨2⟩))]
    let steps : List ReplayStep :=
      [.script (.failNextRead ⟨2⟩), .script (.pushReport ⟨1⟩ raw), .call (.poll second),
        .call (.poll first), .call (.detach second), .call (.poll first)]
    let own : List ReplayStep :=
      [.script (.pushReport ⟨1⟩ raw), .call (.poll first), .call (.poll first)]
    let keyMap := KeyMap.empty.write (.button 0) ⟨0x55⟩
    let host : Host ReplayBus SourceList := (create {} keyMap {} {}).replay before
    steps.filter (ReplayStep.concerns first ⟨1⟩) = own ∧
      (pollAnswers first steps host).map Except.toOption = [some (.key ⟨0x55⟩), some .pending] ∧
      pollAnswers first steps host = pollAnswers first own host := by
  intro raw pad first second before steps own keyMap host
  have live : host.registry.session? first =
      some (.opened ⟨1⟩ .rumblePad (.interruptIn 1) .dropOldest ⟨0⟩) := by decide +kernel
  have unended : host.detachCount first.slot (steps.map ReplayStep.onHost) = 0 := by decide +kernel
  have filtered : steps.filter (ReplayStep.concerns first ⟨1⟩) = own := rfl
  have brought : (pollAnswers first steps host).map Except.toOption =
      [some (.key ⟨0x55⟩), some .pending] := by decide +kernel
  have isolated := (session_isolated {} keyMap ({} : SourceList) before steps first _ live unended).1
  change _ = pollAnswers first (steps.filter (ReplayStep.concerns first ⟨1⟩)) host at isolated
  rw [filtered] at isolated
  exact ⟨filtered, brought, isolated⟩

end Host

end Gamepad
