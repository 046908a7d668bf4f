import Gamepad.Proofs.KeyStream
import Gamepad.Proofs.LiveSessions
import Gamepad.Proofs.RecordedRun
import Gamepad.Proofs.StaleHandles

/-!
How a host takes a device in. Main statement: an attachment is refused for the first reason that
stands against the device, and then registry and input layer are as before; or the device gets the
lowest free slot, with one submission and one registration, on the endpoint on which its session
will read as long as it lives.
-/

namespace Gamepad

theorem Endpoint.sendsReports_iff (endpoint : Endpoint) :
    endpoint.sendsReports = true ↔ endpoint.isIn = true ∧ endpoint.kind = .interrupt := by
  rw [sendsReports, Bool.and_eq_true, decide_eq_true_eq]

namespace DeviceInfo

structure ReportsOn (device : DeviceInfo) (endpoint : Endpoint) : Prop where
  isIn : endpoint.isIn = true
  interrupt : endpoint.kind = .interrupt
  first : ∃ before after, device.endpoints = before ++ endpoint :: after ∧
    ∀ other ∈ before, ¬(other.isIn = true ∧ other.kind = .interrupt)

theorem reportEndpoint?_eq_some_iff (device : DeviceInfo) (endpoint : Endpoint) :
    device.reportEndpoint? = some endpoint ↔ device.ReportsOn endpoint := by
  rw [reportEndpoint?, List.find?_eq_some_iff_append]
  simp only [Bool.not_eq_true', ← Bool.not_eq_true, Endpoint.sendsReports_iff]
  constructor
  · intro found
    obtain ⟨⟨isIn, interrupt⟩, first⟩ := found
    exact ⟨isIn, interrupt, first⟩
  · intro reports
    exact ⟨⟨reports.isIn, reports.interrupt⟩, reports.first⟩

theorem reportEndpoint?_eq_none_iff (device : DeviceInfo) :
    device.reportEndpoint? = none ↔
      ∀ endpoint ∈ device.endpoints, ¬(endpoint.isIn = true ∧ endpoint.kind = .interrupt) := by
  simp only [reportEndpoint?, List.find?_eq_none, Endpoint.sendsReports_iff]

end DeviceInfo

/-! ## Where a session reads -/

namespace Session

def line (session : Session) : DeviceId × Endpoint := (session.device, session.endpoint)

theorem line_poll {β : Type} [Bus β] (session : Session) (keyMap : KeyMap) (quantizer : Quantizer)
    (bus : β) : (session.poll keyMap quantizer bus).2.1.line = session.line := by
  unfold poll
  split
  next => rfl
  next transfer held =>
    rcases Bus.check transfer bus with ⟨answer, later⟩
    cases answer <;> rfl

theorem line_of_polled {session after : Session} {keyMap : KeyMap} {quantizer : Quantizer}
    {events : List BusEvent} {result : KeyPoll}
    (polled : session.Polled keyMap quantizer events result after) (device : DeviceId)
    (endpoint : Endpoint) (answer : Except BusError Transfer)
    (submitted : .submit device endpoint answer ∈ events) : (device, endpoint) = session.line := by
  cases polled with
  | pending transfer held => simp at submitted
  | _ =>
    simp only [List.mem_cons, BusEvent.submit.injEq, List.not_mem_nil, or_false, reduceCtorEq,
      false_or] at submitted
    obtain ⟨rfl, rfl, -⟩ := submitted
    rfl

end Session

namespace Registry

def lineAt? (registry : Registry) (number : Nat) : Option (DeviceId × Endpoint) :=
  (registry.occupant? number).map fun entry => entry.session.line

theorem lineAt?_of_occupant? (registry : Registry) (number : Nat) (entry : RegistryEntry)
    (lives : registry.occupant? number = some entry) :
    registry.lineAt? number = some entry.session.line := by
  rw [lineAt?, lives, Option.map_some]

theorem lineAt?_occupy_of_ne (registry : Registry) (number other : Nat) (entry : RegistryEntry)
    (apart : number ≠ other) : (registry.occupy number entry).lineAt? other = registry.lineAt? other := by
  rw [lineAt?, registry.occupant?_occupy_of_ne number other entry apart, lineAt?]

theorem lineAt?_replace (registry : Registry) (number other : Nat) (entry next : RegistryEntry)
    (lives : registry.occupant? number = some entry) (same : next.session.line = entry.session.line) :
    (registry.occupy number next).lineAt? other = registry.lineAt? other := by
  by_cases here : number = other
  · subst here
    have inside := registry.lt_capacity_of_occupant? number entry lives
    rw [lineAt?_of_occupant? _ number next (registry.occupant?_occupy_self number next inside),
      registry.lineAt?_of_occupant? number entry lives, same]
  · exact registry.lineAt?_occupy_of_ne number other next here

/-- The handle names the lowest free slot, in the generation which the slot counts. -/
structure Offers (registry : Registry) (handle : SessionHandle) : Prop where
  inside : handle.slot < registry.capacity
  free : registry.occupant? handle.slot = none
  lowest : ∀ lower < handle.slot, (registry.occupant? lower).isSome = true
  current : handle.generation = registry.generationAt handle.slot

theorem offers_of_freeHandle? (registry : Registry) (handle : SessionHandle)
    (free : registry.freeHandle? = some handle) : registry.Offers handle := by
  obtain ⟨inside, empty, lowest, current⟩ := registry.freeHandle?_eq_some handle free
  exact ⟨inside, empty, lowest, current⟩

theorem Offers.occupy_eq {registry : Registry} {handle : SessionHandle}
    (offers : registry.Offers handle) (entry : RegistryEntry) :
    registry.occupy handle.slot entry =
      { registry with
        slots := registry.slots.set handle.slot
          { generation := handle.generation, entry := some entry } } := by
  have inside : handle.slot < registry.slots.length := offers.inside
  have current := offers.current
  rw [generationAt, List.getElem?_eq_getElem inside, Option.map_some, Option.getD_some] at current
  have slots : registry.slots.modify handle.slot (fun slot => { slot with entry := some entry }) =
      registry.slots.set handle.slot { generation := handle.generation, entry := some entry } := by
    apply List.ext_getElem?
    intro number
    rw [List.getElem?_modify, List.getElem?_set]
    by_cases here : handle.slot = number
    · subst here
      simp [inside, current]
    · simp [here]
  rw [occupy, slots]

end Registry

namespace Host

variable {β ι : Type} [Bus β] [InputLayer ι]

def watched (host : Host β ι) : Host (RecordedBus β) ι where
  registry := host.registry
  bus := .start host.bus
  inputs := host.inputs

theorem lineAt?_detachAll (slot : Nat) (line : DeviceId × Endpoint) (handles : List SessionHandle)
    (host : Host β ι) (reads : host.registry.lineAt? slot = some line)
    (undisturbed : (ended handles host).countP (fun handle => handle.slot = slot) = 0) :
    (host.detachAll handles).registry.lineAt? slot = some line := by
  induction handles generalizing host with
  | nil => exact reads
  | cons handle rest ih =>
    simp only [ended, detachAll, List.foldl_cons] at undisturbed ⊢
    cases live : host.registry.entry? handle with
    | none =>
      rw [host.detach_of_stale handle live] at undisturbed ⊢
      exact ih host reads undisturbed
    | some entry =>
      rw [host.detach_of_entry? handle entry live] at undisturbed ⊢
      simp only [if_true, List.countP_cons, decide_eq_true_eq, Nat.add_eq_zero_iff,
        ite_eq_right_iff, Nat.one_ne_zero, imp_false] at undisturbed
      obtain ⟨later, apart⟩ := undisturbed
      refine ih _ ?_ later
      rw [Registry.lineAt?, release, host.registry.occupant?_vacate_of_ne handle.slot slot apart]
      exact reads

theorem lineAt?_attach (slot : Nat) (line : DeviceId × Endpoint) (host : Host β ι)
    (device : DeviceInfo) (reads : host.registry.lineAt? slot = some line) :
    (host.attach device).2.registry.lineAt? slot = some line := by
  rcases host.attach_cases device with ⟨_, _, same⟩ | ⟨_, _, _, _, same⟩ | ⟨berth, _, found, _, same⟩
  · rwa [same]
  · rwa [same]
  · rw [same]
    have free := (host.registry.berthFor_eq_ok device berth found).2
    have empty := (host.registry.freeHandle?_eq_some _ free).2.1
    have apart : berth.handle.slot ≠ slot := by
      intro same
      rw [Registry.lineAt?, ← same, empty] at reads
      cases reads
    exact (host.registry.lineAt?_occupy_of_ne _ slot _ apart).trans reads

theorem lineAt?_step (slot : Nat) (line : DeviceId × Endpoint) (host : Host β ι)
    (step : HostStep β ι) (reads : host.registry.lineAt? slot = some line)
    (undisturbed : host.endedIn slot step = 0) :
    (host.step step).registry.lineAt? slot = some line := by
  cases step with
  | outside change => exact reads
  | call made =>
    cases made with
    | attach device => exact lineAt?_attach slot line host device reads
    | announce device => exact lineAt?_attach slot line host device reads
    | detach handle => exact lineAt?_detachAll slot line [handle] host reads undisturbed
    | detachDevice device =>
      have all := lineAt?_detachAll slot line _ host reads undisturbed
      simp only [HostCall.detaches, step, Host.call, detachDevice] at all ⊢
      cases found : host.registry.findDevice? device with
      | none => exact reads
      | some handle =>
        rw [found] at all
        exact all
    | shutdown => exact lineAt?_detachAll slot line host.registry.handles host reads undisturbed
    | poll handle =>
      simp only [step, Host.call]
      cases live : host.registry.entry? handle with
      | none => rwa [host.poll_of_stale handle live]
      | some entry =>
        rw [host.poll_of_entry? handle entry live]
        have lives := ((host.registry.entry?_eq_some_iff handle entry).mp live).1
        exact (host.registry.lineAt?_replace _ slot entry _ lives
          (entry.session.line_poll _ _ _)).trans reads
    | bind binding =>
      obtain ⟨keyMap, same⟩ := host.bind_snd binding
      simp only [step, Host.call, same]
      exact reads

theorem lineAt?_run (slot : Nat) (line : DeviceId × Endpoint) (steps : List (HostStep β ι))
    (host : Host β ι) (reads : host.registry.lineAt? slot = some line)
    (undisturbed : host.detachCount slot steps = 0) :
    (host.run steps).registry.lineAt? slot = some line := by
  induction steps generalizing host with
  | nil => exact reads
  | cons step rest ih =>
    obtain ⟨now, later⟩ := Nat.add_eq_zero_iff.mp undisturbed
    exact ih _ (lineAt?_step slot line host step reads now) later

omit [InputLayer ι] in
theorem line_of_poll (host : Host β ι) (handle : SessionHandle) (entry : RegistryEntry)
    (live : host.registry.entry? handle = some entry) (device : DeviceId) (endpoint : Endpoint)
    (answer : Except BusError Transfer)
    (submitted : .submit device endpoint answer ∈ (host.watched.poll handle).2.bus.events) :
    (device, endpoint) = entry.session.line := by
  have watched : host.watched.registry.entry? handle = some entry := live
  rw [host.watched.poll_of_entry? handle entry watched] at submitted
  obtain ⟨events, polled, noted⟩ := entry.session.poll_polled host.registry.keyMap
    host.registry.settings.quantizer (RecordedBus.start host.bus)
  have only : (host.watched.advance handle entry).bus.events = events := noted
  rw [only] at submitted
  exact Session.line_of_polled polled device endpoint answer submitted

/-! ## Attachments -/

/-- As long as its slot sees no detach, the session of the handle reads the device on the endpoint,
and no poll submits anything else for it. -/
def ReadsOn (host : Host β ι) (handle : SessionHandle) (device : DeviceId) (endpoint : Endpoint) :
    Prop :=
  ∀ steps : List (HostStep β ι), host.detachCount handle.slot steps = 0 →
    (∃ session, (host.run steps).registry.session? handle = some session ∧
      session.device = device ∧ session.endpoint = endpoint) ∧
    ∀ other elsewhere answer,
      .submit other elsewhere answer ∈ ((host.run steps).watched.poll handle).2.bus.events →
      other = device ∧ elsewhere = endpoint

theorem readsOn_of_entry? (host : Host β ι) (handle : SessionHandle) (entry : RegistryEntry)
    (live : host.registry.entry? handle = some entry) :
    host.ReadsOn handle entry.session.device entry.session.endpoint := by
  intro steps undisturbed
  obtain ⟨lives, current⟩ := (host.registry.entry?_eq_some_iff handle entry).mp live
  have reads := lineAt?_run handle.slot _ steps host
    (host.registry.lineAt?_of_occupant? handle.slot entry lives) undisturbed
  obtain ⟨next, livesOn, same⟩ := Option.map_eq_some_iff.mp reads
  have generation := (counts_run handle.slot steps host).generation
  rw [undisturbed, current] at generation
  have liveOn := ((host.run steps).registry.entry?_eq_some_iff handle next).mpr
    ⟨livesOn, generation.trans (UInt32.add_zero _)⟩
  refine ⟨⟨next.session, by rw [Registry.session?, liveOn, Option.map_some], ?_⟩, ?_⟩
  · exact Prod.ext_iff.mp same
  · intro other elsewhere answer submitted
    have there := line_of_poll _ handle next liveOn other elsewhere answer submitted
    exact Prod.ext_iff.mp (there.trans same)

/-- The host after it has taken a device in: one slot is filled, one source is registered, and one
read is submitted, whose transfer the session holds. -/
structure Seated (host : Host β ι) (device : DeviceInfo) (profile : Profile) (endpoint : Endpoint)
    (handle : SessionHandle) (transfer : Transfer) (after : Host β ι) : Prop where
  registry : after.registry =
    { host.registry with
      slots := host.registry.slots.set handle.slot
        { generation := handle.generation
          entry := some
            { name := s!"{host.registry.settings.sourceName}{handle.slot}"
              session :=
                { device := device.id
                  profile
                  endpoint
                  transfer := some transfer
                  previous := profile.idle
                  queue := .empty host.registry.settings.policy } } } }
  inputs : after.inputs =
    InputLayer.register s!"{host.registry.settings.sourceName}{handle.slot}" handle host.inputs
  bus : after.bus = (Bus.submit device.id endpoint host.bus).2
  live : after.registry.contains handle = true
  reads : after.ReadsOn handle device.id endpoint

structure Eligible (host : Host β ι) (device : DeviceInfo) (profile : Profile) : Prop where
  known : Profile.ofIds? device.vendor device.product = some profile
  new : ∀ handle session, host.registry.session? handle = some session →
    session.device ≠ device.id

/-- What becomes of a device that is to be attached: the answer, the host afterwards, and what the
bus was asked. Each case rules out the cases before it. -/
inductive Attached (host : Host β ι) (device : DeviceInfo) :
    Except AttachError SessionHandle → Host β ι → List BusEvent → Prop
  | unsupported (unknown : Profile.ofIds? device.vendor device.product = none) :
    Attached host device (.error (.unsupportedDevice device.vendor device.product)) host []
  | alreadyAttached (profile : Profile)
      (known : Profile.ofIds? device.vendor device.product = some profile)
      (handle : SessionHandle) (session : Session)
      (live : host.registry.session? handle = some session) (same : session.device = device.id) :
    Attached host device (.error (.alreadyAttached device.id)) host []
  | noEndpoint (profile : Profile) (eligible : host.Eligible device profile)
      (mute : ∀ endpoint ∈ device.endpoints,
        ¬(endpoint.isIn = true ∧ endpoint.kind = .interrupt)) :
    Attached host device (.error (.noInterruptEndpoint device.id)) host []
  | full (profile : Profile) (eligible : host.Eligible device profile)
      (endpoint : Endpoint) (reports : device.ReportsOn endpoint)
      (occupied : ∀ number < host.registry.capacity,
        (host.registry.occupant? number).isSome = true) :
    Attached host device (.error (.registryFull host.registry.capacity)) host []
  | refused (profile : Profile) (eligible : host.Eligible device profile)
      (endpoint : Endpoint) (reports : device.ReportsOn endpoint)
      (handle : SessionHandle) (offers : host.registry.Offers handle)
      (error : BusError) (answer : (Bus.submit device.id endpoint host.bus).1 = .error error) :
    Attached host device (.error (.submit error))
      { host with bus := (Bus.submit device.id endpoint host.bus).2 }
      [.submit device.id endpoint (.error error)]
  | seated (profile : Profile) (eligible : host.Eligible device profile)
      (endpoint : Endpoint) (reports : device.ReportsOn endpoint)
      (handle : SessionHandle) (offers : host.registry.Offers handle)
      (transfer : Transfer) (answer : (Bus.submit device.id endpoint host.bus).1 = .ok transfer)
      (after : Host β ι) (seated : host.Seated device profile endpoint handle transfer after) :
    Attached host device (.ok handle) after [.submit device.id endpoint (.ok transfer)]

omit [Bus β] [InputLayer ι] in
theorem eligible_of_findDevice? (host : Host β ι) (device : DeviceInfo) (profile : Profile)
    (known : Profile.ofIds? device.vendor device.product = some profile)
    (absent : host.registry.findDevice? device.id = none) : host.Eligible device profile where
  known := known
  new handle session live := by
    obtain ⟨entry, lives, rfl⟩ := host.registry.exists_occupant?_of_session? handle session live
    exact (host.registry.findDevice?_eq_none_iff device.id).mp absent handle.slot entry lives

theorem attached_of_error (host : Host β ι) (device : DeviceInfo) (error : AttachError)
    (refused : host.registry.berthFor device = .error error) :
    host.Attached device (.error error) host [] := by
  rw [Registry.berthFor_eq] at refused
  split at refused
  next unknown =>
    cases refused
    exact .unsupported unknown
  next profile known =>
    split at refused
    next attached =>
      cases refused
      obtain ⟨handle, found⟩ := Option.isSome_iff_exists.mp attached
      obtain ⟨entry, live, same⟩ := host.registry.findDevice?_eq_some device.id handle found
      refine .alreadyAttached profile known handle entry.session ?_ same
      rw [Registry.session?, live, Option.map_some]
    next absent =>
      have eligible := host.eligible_of_findDevice? device profile known
        (Option.not_isSome_iff_eq_none.mp absent)
      split at refused
      next mute =>
        cases refused
        exact .noEndpoint profile eligible (device.reportEndpoint?_eq_none_iff.mp mute)
      next endpoint reports =>
        split at refused
        next occupied =>
          cases refused
          exact .full profile eligible endpoint
            ((device.reportEndpoint?_eq_some_iff endpoint).mp reports)
            (host.registry.freeHandle?_eq_none_iff.mp occupied)
        next => cases refused

omit [Bus β] [InputLayer ι] in
theorem eligible_of_berthFor (host : Host β ι) (device : DeviceInfo) (berth : Registry.Berth)
    (found : host.registry.berthFor device = .ok berth) :
    host.Eligible device berth.profile ∧ device.ReportsOn berth.endpoint ∧
      host.registry.Offers berth.handle := by
  rw [Registry.berthFor_eq] at found
  split at found
  next => cases found
  next profile known =>
    split at found
    next => cases found
    next absent =>
      split at found
      next => cases found
      next endpoint reports =>
        split at found
        next => cases found
        next handle free =>
          cases found
          exact ⟨host.eligible_of_findDevice? device profile known
              (Option.not_isSome_iff_eq_none.mp absent),
            (device.reportEndpoint?_eq_some_iff endpoint).mp reports,
            host.registry.offers_of_freeHandle? handle free⟩

theorem seated_settle (host : Host β ι) (device : DeviceInfo) (berth : Registry.Berth)
    (transfer : Transfer) (offers : host.registry.Offers berth.handle) :
    host.Seated device berth.profile berth.endpoint berth.handle transfer
      (host.settle device berth transfer) := by
  have live : (host.settle device berth transfer).registry.entry? berth.handle = some _ :=
    (host.registry.entry?_occupy berth.handle berth.handle _ offers.inside offers.current.symm).trans
      (if_pos rfl)
  exact
    { registry := offers.occupy_eq _
      inputs := rfl
      bus := rfl
      live := Registry.contains_of_entry? _ berth.handle _ live
      reads := readsOn_of_entry? _ berth.handle _ live }

theorem events_attach (host : Host β ι) (device : DeviceInfo) :
    (host.watched.attach device).2.bus.events =
      match host.registry.berthFor device with
      | .error _ => []
      | .ok berth =>
        [.submit device.id berth.endpoint (Bus.submit device.id berth.endpoint host.bus).1] := by
  have same : host.watched.registry.berthFor device = host.registry.berthFor device := rfl
  rw [attach_eq, same]
  cases host.registry.berthFor device with
  | error error => rfl
  | ok berth =>
    have submitted : Bus.submit device.id berth.endpoint host.watched.bus =
        ((Bus.submit device.id berth.endpoint host.bus).1,
          host.watched.bus.note (Bus.submit device.id berth.endpoint host.bus).2
            (.submit device.id berth.endpoint (Bus.submit device.id berth.endpoint host.bus).1)) := rfl
    simp only [submitted]
    cases answer : (Bus.submit device.id berth.endpoint host.bus).1 with
    | error error => rfl
    | ok transfer =>
      exact congrArg (fun given => [BusEvent.submit device.id berth.endpoint given]) answer

theorem attached_attach (host : Host β ι) (device : DeviceInfo) :
    host.Attached device (host.attach device).1 (host.attach device).2
      (host.watched.attach device).2.bus.events := by
  rw [events_attach]
  rcases host.attach_cases device with
    ⟨error, found, same⟩ | ⟨berth, error, found, answer, same⟩ | ⟨berth, transfer, found, answer, same⟩
  · rw [same, found]
    exact host.attached_of_error device error found
  · obtain ⟨eligible, reports, offers⟩ := host.eligible_of_berthFor device berth found
    simp only [same, found, answer]
    exact .refused berth.profile eligible berth.endpoint reports berth.handle offers error answer
  · obtain ⟨eligible, reports, offers⟩ := host.eligible_of_berthFor device berth found
    simp only [same, found, answer]
    exact .seated berth.profile eligible berth.endpoint reports berth.handle offers transfer answer
      _ (host.seated_settle device berth transfer offers)

/-- Whatever the state, the device, the bus and the input layer are: the first of the reasons
against the device refuses it and leaves registry and input layer alone, where only a refused
submission reaches the bus; or the device is seated in the lowest free slot. A device that is
announced fares alike, and a record of the bus changes nothing. -/
theorem attach_all_or_nothing (host : Host β ι) (device : DeviceInfo) :
    host.Attached device (host.attach device).1 (host.attach device).2
        (host.watched.attach device).2.bus.events ∧
      Prod.map id (viewBus RecordedBus.bus) (host.watched.attach device) = host.attach device ∧
      host.announce device = ((host.attach device).1.isOk, (host.attach device).2) :=
  ⟨host.attached_attach device, (attach_view RecordedBus.busView host.watched device).symm, rfl⟩

end Host

end Gamepad
