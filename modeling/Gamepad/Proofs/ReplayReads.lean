import Gamepad.Bus.Replay
import Gamepad.Proofs.HostRun

/-!
Reads in flight on the replay bus. Main statement: whatever a host does, the reads in flight are
exactly those that its sessions hold, each for the device of its session, and no two sessions hold
the same.
-/

namespace Gamepad

namespace ReplayBus

theorem getElem?_inFlight_insert (inFlight : Std.ExtTreeMap Transfer DeviceId)
    (transfer other : Transfer) (device : DeviceId) :
    (inFlight.insert transfer device)[other]? =
      if transfer = other then some device else inFlight[other]? := by
  rw [Std.ExtTreeMap.getElem?_insert]
  simp only [Std.LawfulEqOrd.compare_eq_iff_eq]

theorem getElem?_inFlight_erase (inFlight : Std.ExtTreeMap Transfer DeviceId)
    (transfer other : Transfer) :
    (inFlight.erase transfer)[other]? = if transfer = other then none else inFlight[other]? := by
  rw [Std.ExtTreeMap.getElem?_erase]
  simp only [Std.LawfulEqOrd.compare_eq_iff_eq]

theorem other_of_erase (bus : ReplayBus) (transfer other : Transfer) (device : DeviceId)
    (still : (bus.inFlight.erase transfer)[other]? = some device) :
    transfer ≠ other ∧ bus.inFlight[other]? = some device := by
  rw [getElem?_inFlight_erase] at still
  split at still
  next => cases still
  next apart => exact ⟨apart, still⟩

theorem submit_cases (bus : ReplayBus) (device : DeviceId) :
    (∃ error, (bus.submit device).1 = .error error ∧
      (bus.submit device).2.inFlight = bus.inFlight ∧
      (bus.submit device).2.nextSerial = bus.nextSerial ∧
      (bus.submit device).2.log = bus.log.push (.rejected device)) ∨
    ((bus.submit device).1 = .ok ⟨bus.nextSerial⟩ ∧
      (bus.submit device).2.inFlight = bus.inFlight.insert ⟨bus.nextSerial⟩ device ∧
      (bus.submit device).2.nextSerial = bus.nextSerial + 1 ∧
      (bus.submit device).2.log = bus.log.push (.submit device ⟨bus.nextSerial⟩)) := by
  unfold submit
  split
  next => exact .inl ⟨_, rfl, rfl, rfl, rfl⟩
  next script =>
    split
    next => exact .inl ⟨_, rfl, rfl, rfl, rfl⟩
    next => exact .inr ⟨rfl, rfl, rfl, rfl⟩

theorem check_of_inFlight (bus : ReplayBus) (transfer : Transfer) (device : DeviceId)
    (flies : bus.inFlight[transfer]? = some device) :
    (bus.check transfer).2.inFlight =
      (if (bus.check transfer).1 = .pending then bus.inFlight else bus.inFlight.erase transfer) ∧
    (bus.check transfer).2.nextSerial = bus.nextSerial ∧
    (bus.check transfer).2.log = bus.log.push (.check transfer) ∧
    ∀ other, (bus.check transfer).1 ≠ .failed (.unknownTransfer other) := by
  have flying : (bus.record (.check transfer)).inFlight[transfer]? = some device := flies
  simp only [check, flying, answer]
  split
  next => exact ⟨rfl, rfl, rfl, fun _ => by simp⟩
  next script =>
    split
    next => exact ⟨rfl, rfl, rfl, fun _ => by simp⟩
    next =>
      split
      next => exact ⟨rfl, rfl, rfl, fun _ => by simp⟩
      next => exact ⟨rfl, rfl, rfl, fun _ => by simp⟩

end ReplayBus

def ReplayBus.Issued (bus : ReplayBus) : Prop :=
  ∀ (transfer : Transfer) (device : DeviceId), bus.inFlight[transfer]? = some device →
    transfer.serial < bus.nextSerial

/-- A holder of reads of one device lets one transfer go and takes another; all other reads in
flight stay. -/
structure Reheld (device : DeviceId) (before after : Option Transfer) (bus later : ReplayBus) :
    Prop where
  inFlight : ∀ transfer owner, later.inFlight[transfer]? = some owner ↔
    (bus.inFlight[transfer]? = some owner ∧ before ≠ some transfer) ∨
      (after = some transfer ∧ owner = device)
  fresh : ∀ transfer, after = some transfer →
    before = some transfer ∨ bus.inFlight[transfer]? = none
  issued : later.Issued

namespace Reheld

variable {device : DeviceId}

theorem trans {before after : Option Transfer} {bus between later : ReplayBus}
    (first : Reheld device before none bus between) (second : Reheld device none after between later) :
    Reheld device before after bus later where
  inFlight transfer owner := by
    rw [second.inFlight, first.inFlight]
    simp
  fresh transfer taken := by
    have absent := (second.fresh transfer taken).resolve_left (by simp)
    by_cases held : before = some transfer
    · exact .inl held
    · refine .inr (Option.eq_none_iff_forall_ne_some.mpr fun owner flies => ?_)
      have still := (first.inFlight transfer owner).mpr (.inl ⟨flies, held⟩)
      rw [absent] at still
      cases still
  issued := second.issued

theorem submit (bus : ReplayBus) (issued : bus.Issued) :
    Reheld device none (bus.submit device).1.toOption bus (bus.submit device).2 := by
  rcases bus.submit_cases device with ⟨error, answer, same, serial, -⟩ | ⟨answer, inserted, serial, -⟩
  · rw [answer]
    constructor
    · simp [same, Except.toOption]
    · simp [Except.toOption]
    · rw [ReplayBus.Issued, same, serial]
      exact issued
  · have unused : bus.inFlight[(⟨bus.nextSerial⟩ : Transfer)]? = none := by
      rw [Option.eq_none_iff_forall_ne_some]
      intro owner flies
      exact Nat.lt_irrefl _ (issued _ owner flies)
    rw [answer]
    constructor
    · intro transfer owner
      rw [inserted, ReplayBus.getElem?_inFlight_insert]
      by_cases new : (⟨bus.nextSerial⟩ : Transfer) = transfer
      · subst new
        simp [unused, Except.toOption, eq_comm]
      · simp [new, Except.toOption]
    · intro transfer taken
      cases taken
      exact .inr unused
    · intro transfer owner flies
      rw [inserted, ReplayBus.getElem?_inFlight_insert] at flies
      rw [serial]
      by_cases new : (⟨bus.nextSerial⟩ : Transfer) = transfer
      · subst new
        exact Nat.lt_succ_self _
      · rw [if_neg new] at flies
        exact Nat.lt_succ_of_lt (issued _ owner flies)

theorem of_erase {bus later : ReplayBus} {transfer : Transfer}
    (erased : later.inFlight = bus.inFlight.erase transfer) (serial : later.nextSerial = bus.nextSerial)
    (issued : bus.Issued) : Reheld device (some transfer) none bus later := by
  constructor
  · intro other owner
    rw [erased, ReplayBus.getElem?_inFlight_erase]
    by_cases same : transfer = other <;> simp [same]
  · simp
  · intro other owner flies
    rw [erased] at flies
    rw [serial]
    exact issued other owner (bus.other_of_erase transfer other owner flies).2

theorem keep {bus later : ReplayBus} {held : Option Transfer}
    (same : later.inFlight = bus.inFlight) (serial : later.nextSerial = bus.nextSerial)
    (flies : ∀ transfer, held = some transfer → bus.inFlight[transfer]? = some device)
    (issued : bus.Issued) : Reheld device held held bus later := by
  constructor
  · intro transfer owner
    rw [same]
    by_cases mine : held = some transfer
    · simp [mine, flies transfer mine, eq_comm]
    · simp [mine]
  · exact fun transfer => .inl
  · rw [ReplayBus.Issued, same, serial]
    exact issued

end Reheld

namespace Session

theorem advance_reheld (session : Session) (bus : ReplayBus) (issued : bus.Issued) :
    Reheld session.device none (session.advance bus).2.1.transfer bus (session.advance bus).2.2 :=
  Reheld.submit bus issued

theorem device_poll {β : Type} [Bus β] (session : Session) (keyMap : KeyMap) (quantizer : Quantizer)
    (bus : β) : (session.poll keyMap quantizer bus).2.1.device = session.device := by
  unfold poll
  split
  next => rfl
  next transfer held =>
    rcases Bus.check transfer bus with ⟨answer, later⟩
    cases answer <;> rfl

theorem poll_reheld (session : Session) (keyMap : KeyMap) (quantizer : Quantizer) (bus : ReplayBus)
    (flies : ∀ transfer, session.transfer = some transfer →
      bus.inFlight[transfer]? = some session.device) (issued : bus.Issued) :
    Reheld session.device session.transfer (session.poll keyMap quantizer bus).2.1.transfer bus
      (session.poll keyMap quantizer bus).2.2 := by
  cases held : session.transfer with
  | none =>
    simp only [poll, held]
    exact session.advance_reheld bus issued
  | some transfer =>
    obtain ⟨inFlight, serial, -⟩ := bus.check_of_inFlight transfer session.device (flies transfer held)
    rcases checked : Bus.check transfer bus with ⟨answer, later⟩
    have answered : bus.check transfer = (answer, later) := checked
    rw [answered] at inFlight serial
    simp only [poll, held, checked]
    cases answer with
    | pending =>
      simp only [held]
      exact .keep inFlight serial (fun other same => flies other (held.trans same)) issued
    | complete raw =>
      have finished : Reheld session.device (some transfer) none bus later :=
        .of_erase inFlight serial issued
      exact finished.trans
        (advance_reheld (session.receive keyMap quantizer _) later finished.issued)
    | failed error =>
      have finished : Reheld session.device (some transfer) none bus later :=
        .of_erase inFlight serial issued
      exact finished.trans (session.advance_reheld later finished.issued)

theorem detach_reheld (session : Session) (bus : ReplayBus) (issued : bus.Issued) :
    Reheld session.device session.transfer none bus (session.detach bus).2 := by
  unfold detach
  split
  next held =>
    rw [held]
    exact .keep rfl rfl (by simp) issued
  next transfer held =>
    rw [held]
    exact .of_erase rfl rfl issued

end Session

def Registry.reading? (registry : Registry) (number : Nat) : Option (Transfer × DeviceId) :=
  (registry.occupant? number).bind fun entry =>
    entry.session.transfer.map fun transfer => (transfer, entry.session.device)

theorem Registry.reading?_eq_some_iff (registry : Registry) (number : Nat) (entry : RegistryEntry)
    (lives : registry.occupant? number = some entry) (transfer : Transfer) (owner : DeviceId) :
    registry.reading? number = some (transfer, owner) ↔
      entry.session.transfer = some transfer ∧ owner = entry.session.device := by
  simp only [reading?, lives, Option.bind_some, Option.map_eq_some_iff, Prod.mk.injEq]
  constructor
  · rintro ⟨_, held, rfl, rfl⟩
    exact ⟨held, rfl⟩
  · rintro ⟨held, rfl⟩
    exact ⟨transfer, held, rfl, rfl⟩

theorem Registry.reading?_of_empty (registry : Registry) (number : Nat)
    (empty : registry.occupant? number = none) : registry.reading? number = none := by
  simp only [reading?, empty, Option.bind_none]

theorem Registry.reading?_congr {registry later : Registry} {number : Nat}
    (same : later.occupant? number = registry.occupant? number) :
    later.reading? number = registry.reading? number := by
  simp only [reading?, same]

theorem Registry.reading?_of_session? (registry : Registry) (handle : SessionHandle)
    (session : Session) (transfer : Transfer) (live : registry.session? handle = some session)
    (held : session.transfer = some transfer) :
    registry.reading? handle.slot = some (transfer, session.device) := by
  obtain ⟨entry, lives, rfl⟩ := registry.exists_occupant?_of_session? handle session live
  exact (registry.reading?_eq_some_iff _ entry lives _ _).mpr ⟨held, rfl⟩

theorem Registry.exists_session_of_reading? (registry : Registry) (number : Nat)
    (transfer : Transfer) (device : DeviceId)
    (reading : registry.reading? number = some (transfer, device)) :
    ∃ handle session, registry.session? handle = some session ∧
      session.transfer = some transfer ∧ session.device = device := by
  cases lives : registry.occupant? number with
  | none =>
    rw [registry.reading?_of_empty number lives] at reading
    cases reading
  | some entry =>
    obtain ⟨held, rfl⟩ := (registry.reading?_eq_some_iff number entry lives _ _).mp reading
    exact ⟨_, entry.session, registry.session?_of_occupant? number entry lives, held, rfl⟩

/-- The reads in flight are those that the sessions hold, and none is held twice. -/
structure ReadsHeld (registry : Registry) (bus : ReplayBus) : Prop where
  inFlight : ∀ transfer device, bus.inFlight[transfer]? = some device ↔
    ∃ number, registry.reading? number = some (transfer, device)
  unshared : ∀ first second transfer device other,
    registry.reading? first = some (transfer, device) →
    registry.reading? second = some (transfer, other) → first = second
  issued : bus.Issued

namespace ReadsHeld

variable {registry later : Registry} {bus after : ReplayBus}

theorem flies (reads : ReadsHeld registry bus) {number : Nat} {entry : RegistryEntry}
    (lives : registry.occupant? number = some entry) :
    ∀ transfer, entry.session.transfer = some transfer →
      bus.inFlight[transfer]? = some entry.session.device := by
  intro transfer held
  exact (reads.inFlight _ _).mpr
    ⟨number, (registry.reading?_eq_some_iff number entry lives _ _).mpr ⟨held, rfl⟩⟩

theorem change (reads : ReadsHeld registry bus) {number : Nat} {device : DeviceId}
    {held next : Option Transfer} (moved : Reheld device held next bus after)
    (was : ∀ transfer owner, registry.reading? number = some (transfer, owner) ↔
      held = some transfer ∧ owner = device)
    (becomes : ∀ transfer owner, later.reading? number = some (transfer, owner) ↔
      next = some transfer ∧ owner = device)
    (others : ∀ other, number ≠ other → later.reading? other = registry.reading? other) :
    ReadsHeld later after := by
  have apart : ∀ other transfer owner, number ≠ other → next = some transfer →
      registry.reading? other ≠ some (transfer, owner) := by
    intro other transfer owner different taken reading
    rcases moved.fresh transfer taken with mine | absent
    · exact different
        (reads.unshared number other transfer device owner ((was _ _).mpr ⟨mine, rfl⟩) reading)
    · have flies := (reads.inFlight transfer owner).mpr ⟨other, reading⟩
      rw [absent] at flies
      cases flies
  constructor
  · intro transfer owner
    rw [moved.inFlight, reads.inFlight]
    constructor
    · rintro (⟨⟨other, reading⟩, kept⟩ | taken)
      · by_cases same : number = other
        · subst same
          exact absurd ((was _ _).mp reading).1 kept
        · exact ⟨other, by rw [others other same, reading]⟩
      · exact ⟨number, (becomes _ _).mpr taken⟩
    · rintro ⟨other, reading⟩
      by_cases same : number = other
      · subst same
        exact .inr ((becomes _ _).mp reading)
      · rw [others other same] at reading
        refine .inl ⟨⟨other, reading⟩, fun mine => same ?_⟩
        exact reads.unshared number other transfer device owner ((was _ _).mpr ⟨mine, rfl⟩) reading
  · intro first second transfer owner other one two
    by_cases firstHere : number = first <;> by_cases secondHere : number = second
    · exact firstHere.symm.trans secondHere
    · subst firstHere
      rw [others second secondHere] at two
      exact absurd two (apart second transfer other secondHere ((becomes _ _).mp one).1)
    · subst secondHere
      rw [others first firstHere] at one
      exact absurd one (apart first transfer owner firstHere ((becomes _ _).mp two).1)
    · rw [others first firstHere] at one
      rw [others second secondHere] at two
      exact reads.unshared first second transfer owner other one two
  · exact moved.issued

theorem of_same (reads : ReadsHeld registry bus)
    (slots : ∀ number, later.occupant? number = registry.occupant? number)
    (inFlight : after.inFlight = bus.inFlight) (serial : after.nextSerial = bus.nextSerial) :
    ReadsHeld later after where
  inFlight := by
    simp only [Registry.reading?_congr (slots _), inFlight]
    exact reads.inFlight
  unshared := by
    simp only [Registry.reading?_congr (slots _)]
    exact reads.unshared
  issued := by
    rw [ReplayBus.Issued, inFlight, serial]
    exact reads.issued

end ReadsHeld

namespace Host

variable {ι : Type} [InputLayer ι]

omit [InputLayer ι] in
theorem reads_held_create (settings : RegistrySettings) (keyMap : KeyMap) (inputs : ι) :
    ReadsHeld (create settings keyMap ({} : ReplayBus) inputs).registry {} := by
  have noRead : ∀ number, (Registry.create settings keyMap).reading? number = none :=
    fun number => Registry.reading?_of_empty _ number (Registry.occupant?_create settings keyMap number)
  constructor
  · intro transfer device
    simp [create, noRead]
  · intro first second transfer device other reading
    simp [create, noRead] at reading
  · intro transfer device flies
    simp at flies

theorem reads_held_move (before after : Host ReplayBus ι) (move : Move before after)
    (reads : ReadsHeld before.registry before.bus) : ReadsHeld after.registry after.bus := by
  cases move with
  | bound keyMap => exact reads.of_same (fun _ => rfl) rfl rfl
  | refused device endpoint error refused =>
    rcases before.bus.submit_cases device with ⟨_, _, inFlight, serial, -⟩ | ⟨accepted, -⟩
    · exact reads.of_same (fun _ => rfl) inFlight serial
    · have both := refused.symm.trans accepted
      cases both
  | settled device berth found transfer accepted =>
    have free := (before.registry.berthFor_eq_ok device berth found).2
    obtain ⟨inside, empty, -⟩ := before.registry.freeHandle?_eq_some _ free
    have submitted : Reheld device.id none (before.bus.submit device.id).1.toOption before.bus
        (before.bus.submit device.id).2 := .submit before.bus reads.issued
    change (before.bus.submit device.id).1 = .ok transfer at accepted
    rw [accepted] at submitted
    have lives := before.registry.occupant?_occupy_self berth.handle.slot
      { name := before.registry.nameOf berth.handle.slot
        session := .opened device.id berth.profile berth.endpoint before.registry.settings.policy
          transfer } inside
    refine reads.change submitted ?_ (Registry.reading?_eq_some_iff _ _ _ lives) ?_
    · simp [Registry.reading?_of_empty _ _ empty]
    · exact fun other apart =>
        Registry.reading?_congr (before.registry.occupant?_occupy_of_ne _ other _ apart)
  | released handle entry live =>
    have lives := ((before.registry.entry?_eq_some_iff handle entry).mp live).1
    have moved := entry.session.detach_reheld before.bus reads.issued
    refine reads.change moved (Registry.reading?_eq_some_iff _ _ _ lives) ?_ ?_
    · have empty := before.registry.occupant?_vacate_self handle.slot
      simp [release, Registry.reading?_of_empty _ _ empty]
    · exact fun other apart =>
        Registry.reading?_congr (before.registry.occupant?_vacate_of_ne _ other apart)
  | advanced handle entry live =>
    have lives := ((before.registry.entry?_eq_some_iff handle entry).mp live).1
    have moved := entry.session.poll_reheld before.registry.keyMap
      before.registry.settings.quantizer before.bus (reads.flies lives) reads.issued
    have now := before.registry.occupant?_occupy_self handle.slot
      { entry with
        session := (entry.session.poll before.registry.keyMap before.registry.settings.quantizer
          before.bus).2.1 } (before.registry.lt_capacity_of_occupant? _ _ lives)
    refine reads.change moved (Registry.reading?_eq_some_iff _ _ _ lives) ?_ ?_
    · intro transfer owner
      have reading := Registry.reading?_eq_some_iff _ _ _ now transfer owner
      simp only [Session.device_poll] at reading
      exact reading
    · exact fun other apart =>
        Registry.reading?_congr (before.registry.occupant?_occupy_of_ne _ other _ apart)

end Host

end Gamepad
