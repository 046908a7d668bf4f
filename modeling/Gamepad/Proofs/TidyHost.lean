import Gamepad.Console
import Gamepad.Proofs.QuietPolls

/-!
The host of a console between two lines: no failure is ordered, every session has a read in flight,
and the devices on the bus are those of the sessions. Main statements: an attachment, a detachment,
a report and a poll each refill one slot as the plain console does, and leave the host tidy.
-/

namespace Gamepad

structure RegistryEntry.Tended (entry : RegistryEntry) (settings : RegistrySettings) (number : Nat)
    (bus : ReplayBus) : Prop where
  name : entry.name = s!"{settings.sourceName}{number}"
  attended : entry.session.Attended settings.policy bus

namespace Host

abbrev OnReplay := Host ReplayBus SourceList

/-- What a console keeps true of its host between two lines. -/
structure Tidy (settings : RegistrySettings) (host : OnReplay) : Prop where
  configured : host.registry.settings =
    { settings with capacity := Registry.clampCapacity settings.capacity }
  reads : ReadsHeld host.registry host.bus
  tended : ∀ number entry, host.registry.occupant? number = some entry →
    entry.Tended settings number host.bus
  single : ∀ first second one other, host.registry.occupant? first = some one →
    host.registry.occupant? second = some other →
    one.session.device = other.session.device → first = second
  owned : ∀ device script, host.bus.devices[device]? = some script →
    ∃ number entry, host.registry.occupant? number = some entry ∧ entry.session.device = device

theorem tidy_create (settings : RegistrySettings) (keyMap : KeyMap) :
    Tidy settings (create settings keyMap ({} : ReplayBus) ({} : SourceList)) := by
  have none : ∀ number entry, (Registry.create settings keyMap).occupant? number ≠ some entry := by
    intro number entry lives
    rw [Registry.occupant?_create] at lives
    cases lives
  constructor
  · rfl
  · exact reads_held_create settings keyMap ({} : SourceList)
  · exact fun number entry lives => absurd lives (none number entry)
  · exact fun first _ one _ lives => absurd lives (none first one)
  · intro device script plugged
    change (∅ : Std.ExtTreeMap DeviceId DeviceScript)[device]? = some script at plugged
    rw [Std.ExtTreeMap.getElem?_empty] at plugged
    cases plugged

def plainSlots (host : OnReplay) : List (Option PlainSession) :=
  host.registry.slots.map fun slot => slot.entry.map fun entry => entry.session.plain host.bus

theorem length_plainSlots (host : OnReplay) : host.plainSlots.length = host.registry.capacity := by
  simp only [plainSlots, List.length_map, Registry.capacity]

def plainSession? (host : OnReplay) (number : Nat) : Option PlainSession :=
  (host.registry.occupant? number).map fun entry => entry.session.plain host.bus

theorem plainSession?_of_occupant? (host : OnReplay) (number : Nat) (entry : RegistryEntry)
    (lives : host.registry.occupant? number = some entry) :
    host.plainSession? number = some (entry.session.plain host.bus) := by
  rw [plainSession?, lives, Option.map_some]

theorem getElem?_plainSlots (host : OnReplay) (number : Nat) :
    host.plainSlots[number]? =
      if number < host.registry.capacity then some (host.plainSession? number) else none := by
  unfold plainSlots plainSession? Registry.occupant?
  rw [List.getElem?_map]
  split
  next inside => rw [List.getElem?_eq_getElem inside]; rfl
  next outside => rw [List.getElem?_eq_none (Nat.le_of_not_lt outside)]; rfl

theorem plainSlots_eq_set (before after : OnReplay) (number : Nat) (session? : Option PlainSession)
    (capacity : after.registry.capacity = before.registry.capacity)
    (here : after.plainSession? number = session?)
    (others : ∀ other, number ≠ other → after.plainSession? other = before.plainSession? other) :
    after.plainSlots = before.plainSlots.set number session? := by
  apply List.ext_getElem?
  intro other
  rw [List.getElem?_set, length_plainSlots, getElem?_plainSlots, getElem?_plainSlots, capacity]
  by_cases same : number = other
  · subst same
    rw [if_pos rfl, here]
  · rw [if_neg same, others other same]

/-- One slot of a tidy host has got other contents, and the host is tidy again. -/
structure Refilled (settings : RegistrySettings) (before after : OnReplay) (number : Nat)
    (session? : Option PlainSession) : Prop where
  tidy : Tidy settings after
  keyMap : after.registry.keyMap = before.registry.keyMap
  slots : after.plainSlots = before.plainSlots.set number session?

/-- A slot that may take a device: no other slot has it, and neither has the slot another. -/
structure Reserved (host : OnReplay) (number : Nat) (device : DeviceId) : Prop where
  here : ∀ entry, host.registry.occupant? number = some entry → entry.session.device = device
  elsewhere : ∀ other entry, number ≠ other → host.registry.occupant? other = some entry →
    device ≠ entry.session.device

theorem Tidy.reserved {settings : RegistrySettings} {host : OnReplay} (tidy : Tidy settings host)
    {number : Nat} {entry : RegistryEntry} (lives : host.registry.occupant? number = some entry) :
    Reserved host number entry.session.device where
  here occupant alsoLives := by
    rw [lives] at alsoLives
    rw [Option.some.inj alsoLives]
  elsewhere other neighbour apart alsoLives same :=
    apart (tidy.single number other entry neighbour lives alsoLives same)

theorem reserved_of_absent (host : OnReplay) (number : Nat) (device : DeviceId)
    (empty : host.registry.occupant? number = none)
    (absent : host.registry.findDevice? device = none) : Reserved host number device where
  here entry lives := by
    rw [empty] at lives
    cases lives
  elsewhere other neighbour _ lives :=
    ((host.registry.findDevice?_eq_none_iff device).mp absent other neighbour lives).symm

/-- One slot and the script of its device are changed, and everything else stays. -/
structure Change (settings : RegistrySettings) (before after : OnReplay) (number : Nat)
    (device : DeviceId) (content? : Option RegistryEntry) : Prop where
  configured : after.registry.settings = before.registry.settings
  keyMap : after.registry.keyMap = before.registry.keyMap
  capacity : after.registry.capacity = before.registry.capacity
  reads : ReadsHeld after.registry after.bus
  reserved : Reserved before number device
  here : after.registry.occupant? number = content?
  others : ∀ other, number ≠ other →
    after.registry.occupant? other = before.registry.occupant? other
  scripts : ∀ other, device ≠ other → after.bus.devices[other]? = before.bus.devices[other]?
  becomes : ∀ entry, content? = some entry →
    entry.session.device = device ∧ entry.Tended settings number after.bus
  gone : content? = none → after.bus.devices[device]? = none

namespace Change

variable {settings : RegistrySettings} {before after : OnReplay} {number : Nat} {device : DeviceId}
  {content? : Option RegistryEntry}

theorem elsewhere_same (change : Change settings before after number device content?) (other : Nat)
    (entry : RegistryEntry) (apart : number ≠ other)
    (lives : after.registry.occupant? other = some entry) :
    before.registry.occupant? other = some entry ∧ device ≠ entry.session.device ∧
      after.bus.devices[entry.session.device]? = before.bus.devices[entry.session.device]? := by
  rw [change.others other apart] at lives
  have different := change.reserved.elsewhere other entry apart lives
  exact ⟨lives, different, change.scripts _ different⟩

theorem device_here (change : Change settings before after number device content?)
    (entry : RegistryEntry) (lives : after.registry.occupant? number = some entry) :
    entry.session.device = device :=
  (change.becomes entry (change.here.symm.trans lives)).1

theorem tidy (change : Change settings before after number device content?)
    (tidy : Tidy settings before) : Tidy settings after := by
  constructor
  · rw [change.configured, tidy.configured]
  · exact change.reads
  · intro other entry lives
    by_cases here : number = other
    · subst here
      exact (change.becomes entry (change.here.symm.trans lives)).2
    · obtain ⟨lived, -, script⟩ := change.elsewhere_same other entry here lives
      have tended := tidy.tended other entry lived
      exact
        { name := tended.name
          attended := tended.attended.congr script }
  · intro first second one other lives alsoLives devices
    by_cases firstHere : number = first <;> by_cases secondHere : number = second
    · exact firstHere.symm.trans secondHere
    · subst firstHere
      have mine := change.device_here one lives
      exact absurd (mine.symm.trans devices) (change.elsewhere_same _ _ secondHere alsoLives).2.1
    · subst secondHere
      have mine := change.device_here other alsoLives
      exact absurd (mine.symm.trans devices.symm) (change.elsewhere_same _ _ firstHere lives).2.1
    · exact tidy.single first second one other (change.elsewhere_same _ _ firstHere lives).1
        (change.elsewhere_same _ _ secondHere alsoLives).1 devices
  · intro owner script plugged
    by_cases mine : device = owner
    · subst mine
      cases content? with
      | none =>
        rw [change.gone rfl] at plugged
        cases plugged
      | some entry => exact ⟨number, entry, change.here, (change.becomes entry rfl).1⟩
    · rw [change.scripts owner mine] at plugged
      obtain ⟨other, entry, lives, rfl⟩ := tidy.owned owner script plugged
      have apart : number ≠ other := by
        intro here
        subst here
        exact mine (change.reserved.here entry lives).symm
      exact ⟨other, entry, (change.others other apart).trans lives, rfl⟩

theorem plainSlots (change : Change settings before after number device content?) :
    after.plainSlots =
      before.plainSlots.set number (content?.map fun entry => entry.session.plain after.bus) := by
  apply plainSlots_eq_set _ _ _ _ change.capacity
  · rw [plainSession?, change.here]
  · intro other apart
    simp only [plainSession?]
    rw [change.others other apart]
    cases lives : before.registry.occupant? other with
    | none => rfl
    | some entry =>
      have script := change.scripts _ (change.reserved.elsewhere other entry apart lives)
      rw [Option.map_some, Option.map_some, entry.session.plain_congr script]

theorem refilled (change : Change settings before after number device content?)
    (tidy : Tidy settings before) :
    Refilled settings before after number
      (content?.map fun entry => entry.session.plain after.bus) where
  tidy := change.tidy tidy
  keyMap := change.keyMap
  slots := change.plainSlots

end Change

namespace Tidy

variable {settings : RegistrySettings} {host : OnReplay}

theorem refilled_detach (tidy : Tidy settings host) (handle : SessionHandle) (entry : RegistryEntry)
    (live : host.registry.entry? handle = some entry) :
    Refilled settings host ((host.detach handle).2.unplug entry.session.device) handle.slot none := by
  have lives := ((host.registry.entry?_eq_some_iff handle entry).mp live).1
  have released := reads_held_move host _ (.released handle entry live) tidy.reads
  rw [host.detach_of_entry? handle entry live]
  have devices : (entry.session.detach host.bus).2.devices = host.bus.devices := by
    unfold Session.detach
    split <;> rfl
  have change : Change settings host ((host.release handle entry).unplug entry.session.device)
      handle.slot entry.session.device none :=
    { configured := rfl
      keyMap := rfl
      capacity := host.registry.capacity_vacate handle.slot
      reads := released.of_same (fun _ => rfl) rfl rfl
      reserved := tidy.reserved lives
      here := host.registry.occupant?_vacate_self handle.slot
      others := host.registry.occupant?_vacate_of_ne handle.slot
      scripts := by
        intro other apart
        change ((entry.session.detach host.bus).2.unplug _).devices[other]? = _
        rw [ReplayBus.getElem?_unplug, if_neg apart, devices]
      becomes := fun _ none => nomatch none
      gone := by
        intro _
        change ((entry.session.detach host.bus).2.unplug _).devices[_]? = _
        rw [ReplayBus.getElem?_unplug, if_pos rfl] }
  exact change.refilled tidy

theorem refilled_pushReport (tidy : Tidy settings host) (number : Nat) (entry : RegistryEntry)
    (lives : host.registry.occupant? number = some entry) (raw : RawReport) :
    Refilled settings host (host.pushReport entry.session.device raw) number
      (some
        { entry.session.plain host.bus with
          reports := (entry.session.plain host.bus).reports ++ [raw] }) := by
  have tended := tidy.tended number entry lives
  have script : (host.pushReport entry.session.device raw).bus.devices[entry.session.device]? =
      some { reports := host.bus.reportsOf entry.session.device ++ [raw] } := by
    change (host.bus.amend _ _).devices[_]? = _
    have serves := tended.attended.serves
    unfold ReplayBus.Serves at serves
    rw [ReplayBus.getElem?_amend, if_pos rfl, serves]
    rfl
  have change : Change settings host (host.pushReport entry.session.device raw) number
      entry.session.device (some entry) :=
    { configured := rfl
      keyMap := rfl
      capacity := rfl
      reads := tidy.reads.of_same (fun _ => rfl) rfl rfl
      reserved := tidy.reserved lives
      here := lives
      others := fun _ _ => rfl
      scripts := by
        intro other apart
        change (host.bus.amend _ _).devices[other]? = _
        rw [ReplayBus.getElem?_amend, if_neg apart]
      becomes := by
        rintro _ ⟨⟩
        exact ⟨rfl,
          { name := tended.name
            attended := { tended.attended with serves := ReplayBus.serves_of_script script } }⟩
      gone := fun none => nomatch none }
  have refilled := change.refilled tidy
  simp only [Option.map_some, Session.plain, ReplayBus.reportsOf_eq script] at refilled
  exact refilled

theorem refilled_poll (tidy : Tidy settings host) (handle : SessionHandle) (entry : RegistryEntry)
    (live : host.registry.entry? handle = some entry) :
    ∃ result after polled, host.poll handle = (.ok result, after) ∧
      after.registry.entry? handle = some polled ∧
      (result, polled.session.plain after.bus) =
        (entry.session.plain host.bus).poll settings host.registry.keyMap ∧
      Refilled settings host after handle.slot (some (polled.session.plain after.bus)) := by
  obtain ⟨lives, current⟩ := (host.registry.entry?_eq_some_iff handle entry).mp live
  have tended := tidy.tended handle.slot entry lives
  have quantizer : host.registry.settings.quantizer = settings.quantizer := by
    rw [tidy.configured]
  obtain ⟨result, session, bus, polled, same, attended, scripts⟩ := entry.session.poll_attended
    host.registry.keyMap host.bus settings tended.attended (tidy.reads.flies lives)
  have moved := reads_held_move host _ (.advanced handle entry live) tidy.reads
  let after : OnReplay :=
    { host with
      registry := host.registry.occupy handle.slot { entry with session }
      bus }
  have advanced : host.advance handle entry = after := by
    simp only [advance, quantizer, polled]
    rfl
  have device : session.device = entry.session.device := by
    have kept := entry.session.device_poll host.registry.keyMap settings.quantizer host.bus
    rwa [polled] at kept
  have now := host.registry.occupant?_occupy_self handle.slot { entry with session }
    (host.registry.lt_capacity_of_occupant? _ _ lives)
  rw [advanced] at moved
  have change : Change settings host after handle.slot entry.session.device
      (some { entry with session }) :=
    { configured := rfl
      keyMap := rfl
      capacity := host.registry.capacity_occupy _ _
      reads := moved
      reserved := tidy.reserved lives
      here := now
      others := fun other => host.registry.occupant?_occupy_of_ne _ other _
      scripts := scripts
      becomes := by
        rintro _ ⟨⟩
        exact ⟨device,
          { name := tended.name
            attended := attended }⟩
      gone := fun none => nomatch none }
  refine ⟨result, after, { entry with session }, ?_, ?_, same, change.refilled tidy⟩
  · rw [host.poll_of_entry? handle entry live, advanced, quantizer, polled]
  · refine (Registry.entry?_eq_some_iff _ _ _).mpr ⟨now, ?_⟩
    rw [← current]
    exact host.registry.generationAt_occupy _ _ _

end Tidy

theorem Tidy.refilled_same {settings : RegistrySettings} {host : OnReplay}
    (tidy : Tidy settings host) (number : Nat) (entry : RegistryEntry)
    (lives : host.registry.occupant? number = some entry) :
    Refilled settings host host number (some (entry.session.plain host.bus)) where
  tidy := tidy
  keyMap := rfl
  slots := plainSlots_eq_set host host number _ rfl (host.plainSession?_of_occupant? number entry lives)
    fun _ _ => rfl

theorem Refilled.trans {settings : RegistrySettings} {before middle after : OnReplay} {number : Nat}
    {first second : Option PlainSession} (early : Refilled settings before middle number first)
    (late : Refilled settings middle after number second) :
    Refilled settings before after number second where
  tidy := late.tidy
  keyMap := late.keyMap.trans early.keyMap
  slots := by rw [late.slots, early.slots, List.set_set]

theorem refilled_pollLines (settings : RegistrySettings) (handle : SessionHandle) (count : Nat)
    (host : OnReplay) (tidy : Tidy settings host) (entry : RegistryEntry)
    (live : host.registry.entry? handle = some entry) :
    ∃ lines session after, Console.pollLines handle count host = (.ok lines, after) ∧
      (entry.session.plain host.bus).pollLines settings host.registry.keyMap count =
        (lines, session) ∧
      Refilled settings host after handle.slot (some session) := by
  induction count generalizing host entry with
  | zero =>
    have lives := ((host.registry.entry?_eq_some_iff handle entry).mp live).1
    exact ⟨[], _, host, rfl, rfl, tidy.refilled_same handle.slot entry lives⟩
  | succ count ih =>
    obtain ⟨result, middle, polled, first, still, same, refilled⟩ :=
      tidy.refilled_poll handle entry live
    obtain ⟨lines, session, after, rest, plainRest, refilledRest⟩ :=
      ih middle refilled.tidy polled still
    rw [refilled.keyMap] at plainRest
    refine ⟨result.text :: lines, session, after, ?_, ?_, refilled.trans refilledRest⟩
    · simp only [Console.pollLines, first, rest]
      rfl
    · simp only [PlainSession.pollLines, ← same, plainRest]

theorem holds_eq (console : PlainConsole) (host : OnReplay) (slots : console.slots = host.plainSlots)
    (device : DeviceId) :
    console.holds device = (host.registry.findDevice? device).isSome := by
  rw [Bool.eq_iff_iff, Option.isSome_iff_ne_none, Ne, Registry.findDevice?_eq_none_iff]
  unfold PlainConsole.holds
  rw [slots, List.any_eq_true]
  constructor
  · rintro ⟨session?, member, matched⟩ absent
    obtain ⟨number, present⟩ := List.getElem?_of_mem member
    rw [getElem?_plainSlots] at present
    split at present
    next =>
      cases Option.some.inj present
      obtain ⟨session, held, same⟩ := (Option.any_eq_true _ _).mp matched
      obtain ⟨entry, lives, rfl⟩ := Option.map_eq_some_iff.mp held
      exact absent number entry lives (of_decide_eq_true same)
    next => cases present
  · intro attached
    simp only [not_forall, not_not] at attached
    obtain ⟨number, entry, lives, same⟩ := attached
    have inside := host.registry.lt_capacity_of_occupant? number entry lives
    have present : host.plainSlots[number]? = some (some (entry.session.plain host.bus)) := by
      rw [getElem?_plainSlots, if_pos inside, host.plainSession?_of_occupant? number entry lives]
    exact ⟨_, List.mem_of_getElem? present, decide_eq_true same⟩

theorem findIdx?_isNone_plainSlots (host : OnReplay) :
    host.plainSlots.findIdx? Option.isNone = host.registry.freeHandle?.map SessionHandle.slot := by
  have empty : (Option.isNone ∘ fun slot : RegistrySlot =>
      slot.entry.map fun entry => entry.session.plain host.bus) = fun slot => slot.entry.isNone := by
    funext slot
    exact Option.isNone_map
  unfold plainSlots Registry.freeHandle?
  rw [List.findIdx?_map, empty, Option.map_map]
  exact Option.map_id'.symm

theorem slotFor_eq (console : PlainConsole) (host : OnReplay) (slots : console.slots = host.plainSlots)
    (device : DeviceInfo) (endpoint : Endpoint) (reports : device.reportEndpoint? = some endpoint) :
    console.slotFor device.id device.vendor device.product =
      (host.registry.berthFor device).map fun berth => berth.handle.slot := by
  unfold PlainConsole.slotFor
  rw [Registry.berthFor_eq, holds_eq console host slots, slots, findIdx?_isNone_plainSlots,
    length_plainSlots, reports]
  cases Profile.ofIds? device.vendor device.product with
  | none => rfl
  | some profile =>
    cases (host.registry.findDevice? device.id).isSome with
    | true => rfl
    | false => cases host.registry.freeHandle? <;> rfl

namespace Tidy

variable {settings : RegistrySettings} {host : OnReplay}

theorem unplugged (tidy : Tidy settings host) (device : DeviceId)
    (absent : host.registry.findDevice? device = none) : host.bus.devices[device]? = none := by
  rw [Option.eq_none_iff_forall_ne_some]
  intro script plugged
  obtain ⟨number, entry, lives, same⟩ := tidy.owned device script plugged
  exact (host.registry.findDevice?_eq_none_iff device).mp absent number entry lives same

theorem attach_of_berth (tidy : Tidy settings host) (device : DeviceInfo) (berth : Registry.Berth)
    (found : host.registry.berthFor device = .ok berth) :
    ∃ transfer, (Bus.submit device.id berth.endpoint (host.plug device.id).bus).1 = .ok transfer ∧
      (host.plug device.id).attach device =
        (.ok berth.handle, (host.plug device.id).settle device berth transfer) := by
  have unplugged := tidy.unplugged device.id (host.registry.berthFor_eq_ok device berth found).1
  have serves := ReplayBus.serves_of_script (host.bus.plug_of_absent device.id unplugged)
  have accepted := ((host.bus.plug device.id).submit_of_serves device.id serves).1
  rcases (host.plug device.id).attach_cases device with
    ⟨_, refused, -⟩ | ⟨_, _, _, refused, -⟩ | ⟨_, transfer, same, started, attached⟩
  · have both := found.symm.trans refused
    cases both
  · have both := accepted.symm.trans refused
    cases both
  · cases Except.ok.inj (found.symm.trans same)
    exact ⟨transfer, started, attached⟩

theorem refilled_attach (tidy : Tidy settings host) (device : DeviceInfo) (berth : Registry.Berth)
    (found : host.registry.berthFor device = .ok berth) :
    ∃ after, (host.plug device.id).attach device = (.ok berth.handle, after) ∧
      after.registry.name? berth.handle = some s!"{settings.sourceName}{berth.handle.slot}" ∧
      Refilled settings host after berth.handle.slot (some (.opened device.id)) := by
  obtain ⟨absent, free⟩ := host.registry.berthFor_eq_ok device berth found
  obtain ⟨inside, empty, -, current⟩ := host.registry.freeHandle?_eq_some _ free
  have plugged := host.bus.plug_of_absent device.id (tidy.unplugged device.id absent)
  obtain ⟨-, devices⟩ := (host.bus.plug device.id).submit_of_serves device.id
    (ReplayBus.serves_of_script plugged)
  obtain ⟨transfer, started, attached⟩ := tidy.attach_of_berth device berth found
  let entry : RegistryEntry :=
    { name := host.registry.nameOf berth.handle.slot
      session := .opened device.id berth.profile berth.endpoint host.registry.settings.policy
        transfer }
  let after := (host.plug device.id).settle device berth transfer
  have there : (host.plug device.id).registry.berthFor device = .ok berth := found
  have settled : Move (host.plug device.id) after := .settled device berth there transfer started
  have name : entry.name = s!"{settings.sourceName}{berth.handle.slot}" := by
    change s!"{host.registry.settings.sourceName}{berth.handle.slot}" = _
    rw [tidy.configured]
  have policy : entry.session.queue.policy = settings.policy := by
    change host.registry.settings.policy = _
    rw [tidy.configured]
  have lives : after.registry.occupant? berth.handle.slot = some entry :=
    host.registry.occupant?_occupy_self berth.handle.slot entry inside
  have script : after.bus.devices[device.id]? = some {} := by
    change ((host.bus.plug device.id).submit device.id).2.devices[device.id]? = _
    rw [devices, plugged]
  have change : Change settings host after berth.handle.slot device.id (some entry) :=
    { configured := rfl
      keyMap := rfl
      capacity := host.registry.capacity_occupy _ _
      reads := reads_held_move (host.plug device.id) after settled
        (tidy.reads.of_same (fun _ => rfl) rfl rfl)
      reserved := host.reserved_of_absent _ _ empty absent
      here := lives
      others := fun other => host.registry.occupant?_occupy_of_ne _ other _
      scripts := by
        intro other apart
        change ((host.bus.plug device.id).submit device.id).2.devices[other]? = _
        rw [devices, ReplayBus.plug, ReplayBus.getElem?_amend, if_neg apart]
      becomes := by
        rintro _ ⟨⟩
        exact ⟨rfl,
          { name := name
            attended :=
              { policy := policy
                reading := rfl
                serves := ReplayBus.serves_of_script script } }⟩
      gone := fun none => nomatch none }
  have refilled := change.refilled tidy
  rw [Option.map_some, Session.plain_opened _ _ _ _ _ _ script] at refilled
  refine ⟨after, attached, ?_, refilled⟩
  have live : after.registry.entry? berth.handle = some entry :=
    (Registry.entry?_eq_some_iff _ _ _).mpr
      ⟨lives, (host.registry.generationAt_occupy _ _ _).trans current.symm⟩
  rw [Registry.name?, live, Option.map_some, name]

theorem bound (tidy : Tidy settings host) (keyMap : KeyMap) :
    Tidy settings { host with registry := { host.registry with keyMap } } where
  configured := tidy.configured
  reads := tidy.reads.of_same (fun _ => rfl) rfl rfl
  tended := tidy.tended
  single := tidy.single
  owned := tidy.owned

/-- A device without a berth leaves no trace on the bus once it is unplugged again. -/
theorem attach_refused (tidy : Tidy settings host) (device : DeviceInfo) (error : AttachError)
    (found : host.registry.berthFor device = .error error) :
    (host.plug device.id).attach device = (.error error, host.plug device.id) ∧
      (if (host.registry.findDevice? device.id).isSome then host.plug device.id
        else (host.plug device.id).unplug device.id) = host := by
  constructor
  · have refused : (host.plug device.id).registry.berthFor device = .error error := found
    simp only [attach, refused]
  · split
    next attached =>
      obtain ⟨handle, attached⟩ := Option.isSome_iff_exists.mp attached
      obtain ⟨entry, live, same⟩ := host.registry.findDevice?_eq_some device.id handle attached
      have lives := ((host.registry.entry?_eq_some_iff handle entry).mp live).1
      have serves := (tidy.tended handle.slot entry lives).attended.serves
      rw [same] at serves
      rw [plug, host.bus.plug_of_serves device.id serves]
    next absent =>
      have unplugged := tidy.unplugged device.id (Option.not_isSome_iff_eq_none.mp absent)
      change { host with bus := (host.bus.plug device.id).unplug device.id } = host
      rw [host.bus.unplug_plug_of_absent device.id unplugged]

end Tidy

end Host

end Gamepad
