import Gamepad.Proofs.RegisteredSources
import Gamepad.Proofs.SessionOutlook
import Mathlib.Data.List.Basic

/-!
The end of sessions, over the replay bus. Main statement: a shutdown ends every session and cancels
every read that one holds, and nothing is left of them; the sessions may as well be ended one by
one, in any order and by handle or by device, and what has ended once does not end again.
-/

namespace Gamepad

/-! ## Slots -/

def RegistrySlot.cleared (slot : RegistrySlot) : RegistrySlot :=
  if slot.entry.isSome then { generation := slot.generation + 1, entry := none } else slot

namespace Registry

def cleared (registry : Registry) : Registry :=
  { registry with slots := registry.slots.map RegistrySlot.cleared }

def vacateAll (registry : Registry) (handles : List SessionHandle) : Registry :=
  handles.foldl (fun registry handle => registry.vacate handle.slot) registry

def readOf? (registry : Registry) (handle : SessionHandle) : Option Transfer :=
  (registry.entry? handle).bind fun entry => entry.session.transfer

theorem handles_ascend (registry : Registry) :
    registry.handles.Pairwise fun earlier later => earlier.slot < later.slot := by
  refine List.Pairwise.filterMap _ ?_ List.pairwise_lt_range
  intro number next below one found other alsoFound
  rw [((registry.handleAt?_eq_some_iff number one).mp found).2,
    ((registry.handleAt?_eq_some_iff next other).mp alsoFound).2]
  exact below

theorem nodup_handles (registry : Registry) : registry.handles.Nodup :=
  registry.handles_ascend.imp fun below same => Nat.ne_of_lt below (congrArg SessionHandle.slot same)

theorem filterMap_readOf? (registry : Registry) :
    registry.handles.filterMap registry.readOf? =
      registry.entries.filterMap fun (_, entry) => entry.session.transfer := by
  rw [entries, List.filterMap_filterMap]
  congr 1
  funext handle
  rw [readOf?]
  cases registry.entry? handle <;> rfl

variable {registry : Registry} {handle : SessionHandle} {entry : RegistryEntry}

theorem entry?_vacate_of_ne (live : registry.entry? handle = some entry) (other : SessionHandle)
    (apart : handle ≠ other) :
    entry? (registry.vacate handle.slot) other = registry.entry? other :=
  (registry.entry?_vacate handle other entry live).trans (if_neg apart)

theorem entry?_vacateAll (handles : List SessionHandle) (distinct : handles.Nodup)
    (live : ∀ handle ∈ handles, registry.contains handle = true) (other : SessionHandle) :
    entry? (registry.vacateAll handles) other =
      if other ∈ handles then none else registry.entry? other := by
  induction handles generalizing registry with
  | nil => simp [vacateAll]
  | cons first rest ih =>
    obtain ⟨absent, distinct⟩ := List.nodup_cons.mp distinct
    obtain ⟨entry, lives⟩ := Option.isSome_iff_exists.mp (live first List.mem_cons_self)
    have still : ∀ handle ∈ rest, contains (registry.vacate first.slot) handle = true := by
      intro handle member
      have apart : first ≠ handle := fun same => absent (same ▸ member)
      rw [contains, entry?_vacate_of_ne lives handle apart]
      exact live handle (List.mem_cons_of_mem first member)
    rw [vacateAll, List.foldl_cons]
    refine (ih distinct still).trans ?_
    rw [registry.entry?_vacate first other entry lives]
    by_cases here : first = other
    · simp [here]
    · simp [here, Ne.symm here]

theorem getElem?_vacateAll (handles : List SessionHandle)
    (distinct : (handles.map SessionHandle.slot).Nodup) (number : Nat) :
    (registry.vacateAll handles).slots[number]? =
      registry.slots[number]?.map fun slot =>
        if number ∈ handles.map SessionHandle.slot then
          { generation := slot.generation + 1, entry := none }
        else slot := by
  induction handles generalizing registry with
  | nil => simp [vacateAll]
  | cons first rest ih =>
    obtain ⟨absent, distinct⟩ := List.nodup_cons.mp distinct
    rw [vacateAll, List.foldl_cons]
    refine (ih distinct).trans ?_
    rw [vacate, List.getElem?_modify]
    cases registry.slots[number]? with
    | none => rfl
    | some slot =>
      by_cases here : first.slot = number
      · subst here
        simp [absent]
      · simp [here, Ne.symm here]

theorem mem_slots_of_handles (number : Nat) :
    number ∈ registry.handles.map SessionHandle.slot ↔
      (registry.occupant? number).isSome = true := by
  rw [List.mem_map]
  constructor
  · intro held
    obtain ⟨handle, member, rfl⟩ := held
    exact ((registry.contains_iff handle).mp ((registry.mem_handles handle).mp member)).1
  · intro lives
    refine ⟨{ slot := number, generation := registry.generationAt number }, ?_, rfl⟩
    exact (registry.mem_handles _).mpr ((registry.contains_iff _).mpr ⟨lives, rfl⟩)

theorem vacateAll_eq (handles : List SessionHandle) (registry : Registry) :
    registry.vacateAll handles = { registry with slots := (registry.vacateAll handles).slots } := by
  induction handles generalizing registry with
  | nil => rfl
  | cons first rest ih => exact ih (registry.vacate first.slot)

/-- Whatever the order, all live sessions together leave the registry cleared. -/
theorem vacateAll_of_perm (order : List SessionHandle) (all : order.Perm registry.handles) :
    registry.vacateAll order = registry.cleared := by
  have ascend : (registry.handles.map SessionHandle.slot).Nodup :=
    List.pairwise_map.mpr (registry.handles_ascend.imp Nat.ne_of_lt)
  have slots := all.map SessionHandle.slot
  have same : (registry.vacateAll order).slots = registry.slots.map RegistrySlot.cleared := by
    apply List.ext_getElem?
    intro number
    rw [getElem?_vacateAll order (slots.nodup_iff.mpr ascend), List.getElem?_map]
    cases present : registry.slots[number]? with
    | none => rfl
    | some slot =>
      simp only [Option.map_some, slots.mem_iff, mem_slots_of_handles, occupant?, present,
        Option.bind_some, RegistrySlot.cleared]
  rw [vacateAll_eq, same]
  rfl

end Registry

/-! ## Ending sessions one by one -/

inductive Ending
  | byHandle (handle : SessionHandle)
  | byDevice (device : DeviceId)

def Ending.Ends (registry : Registry) (handle : SessionHandle) : Ending → Prop
  | .byHandle named => named = handle
  | .byDevice device => ∃ session, registry.session? handle = some session ∧ session.device = device

theorem Ending.Ends.of_same {registry later : Registry} {handle : SessionHandle} {ending : Ending}
    (ends : ending.Ends registry handle) (same : later.entry? handle = registry.entry? handle) :
    ending.Ends later handle := by
  cases ending with
  | byHandle named => exact ends
  | byDevice device =>
    unfold Ends Registry.session? at ends ⊢
    rwa [same]

namespace Session

variable (session : Session) (bus : ReplayBus)

theorem detach_log :
    (session.detach bus).2.log.toList =
      bus.log.toList ++ session.transfer.toList.map BusCall.cancel := by
  unfold detach
  split
  next held =>
    rw [held]
    exact (List.append_nil _).symm
  next transfer held =>
    rw [held]
    exact Array.toList_push

theorem detach_nextSerial : (session.detach bus).2.nextSerial = bus.nextSerial := by
  unfold detach
  split <;> rfl

end Session

namespace Host

def endBy (host : Host ReplayBus SourceList) : Ending → Bool × Host ReplayBus SourceList
  | .byHandle handle => host.detach handle
  | .byDevice device => host.detachDevice device

def endAll : List Ending → Host ReplayBus SourceList → List Bool × Host ReplayBus SourceList
  | [], host => ([], host)
  | ending :: rest, host =>
    let (ended, host) := host.endBy ending
    let (others, host) := endAll rest host
    (ended :: others, host)

/-- What every run over the replay bus keeps: the slots are in order, the reads in flight are held
by sessions, and the sources are those of the sessions. -/
structure Consistent (settings : RegistrySettings) (host : Host ReplayBus SourceList) : Prop where
  kept : host.registry.Kept settings
  reads : ReadsHeld host.registry host.bus
  listed : host.registry.Listed host.inputs

variable {settings : RegistrySettings} {host : Host ReplayBus SourceList}

theorem consistent_move (before after : Host ReplayBus SourceList) (move : Move before after)
    (consistent : before.Consistent settings) : after.Consistent settings where
  kept := kept_move settings before after move consistent.kept
  reads := reads_held_move before after move consistent.reads
  listed := listed_move before after move consistent.listed

theorem consistent_replay (settings : RegistrySettings) (keyMap : KeyMap) (steps : List ReplayStep) :
    Consistent settings
      ((create settings keyMap ({} : ReplayBus) ({} : SourceList)).replay steps) := by
  refine kept_by_run (Consistent settings) consistent_move _ ?_ _
    ⟨Registry.kept_create settings keyMap, reads_held_create settings keyMap ({} : SourceList),
      Registry.listed_create settings keyMap⟩
  intro change member host consistent
  obtain ⟨script, rfl⟩ := ReplayStep.exists_script_of_outside steps change member
  obtain ⟨inFlight, serial, -⟩ := host.bus.apply_frame script
  exact ⟨consistent.kept, consistent.reads.of_same (fun _ => rfl) inFlight serial, consistent.listed⟩

theorem endBy_of_entry? (consistent : host.Consistent settings) {ending : Ending}
    {handle : SessionHandle} {entry : RegistryEntry} (ends : ending.Ends host.registry handle)
    (live : host.registry.entry? handle = some entry) :
    host.endBy ending = (true, host.release handle entry) := by
  cases ending with
  | byHandle named =>
    cases ends
    exact host.detach_of_entry? handle entry live
  | byDevice device =>
    have found := (consistent.kept.findDevice?_eq_some_iff device handle).mpr ends
    simp only [endBy, detachDevice, found]
    exact host.detach_of_entry? handle entry live

/-- Sessions have been ended in this order: each answer says so, their slots are vacated, their reads
are cancelled, and nothing else has changed. -/
structure EndedIn (settings : RegistrySettings) (host : Host ReplayBus SourceList)
    (order : List SessionHandle) (ended : List Bool × Host ReplayBus SourceList) : Prop where
  answers : ended.1 = order.map fun _ => true
  registry : ended.2.registry = host.registry.vacateAll order
  devices : ended.2.bus.devices = host.bus.devices
  nextSerial : ended.2.bus.nextSerial = host.bus.nextSerial
  log : ended.2.bus.log.toList =
    host.bus.log.toList ++ (order.filterMap host.registry.readOf?).map BusCall.cancel
  consistent : ended.2.Consistent settings

theorem endedIn_endAll (order : List SessionHandle) (way : SessionHandle → Ending)
    (host : Host ReplayBus SourceList) (consistent : host.Consistent settings)
    (distinct : order.Nodup) (live : ∀ handle ∈ order, host.registry.contains handle = true)
    (ends : ∀ handle ∈ order, (way handle).Ends host.registry handle) :
    EndedIn settings host order (host.endAll (order.map way)) := by
  induction order generalizing host with
  | nil =>
    exact
      { answers := rfl
        registry := rfl
        devices := rfl
        nextSerial := rfl
        log := (List.append_nil _).symm
        consistent }
  | cons first rest ih =>
    obtain ⟨absent, distinct⟩ := List.nodup_cons.mp distinct
    obtain ⟨entry, lives⟩ := Option.isSome_iff_exists.mp (live first List.mem_cons_self)
    have others : ∀ handle ∈ rest,
        (host.release first entry).registry.entry? handle = host.registry.entry? handle :=
      fun handle member => Registry.entry?_vacate_of_ne lives handle fun same => absent (same ▸ member)
    have later := ih (host.release first entry)
      (consistent_move host _ (.released first entry lives) consistent) distinct ?live ?ends
    case live =>
      intro handle member
      rw [Registry.contains, others handle member]
      exact live handle (List.mem_cons_of_mem first member)
    case ends =>
      intro handle member
      exact (ends handle (List.mem_cons_of_mem first member)).of_same (others handle member)
    have reads : rest.filterMap (host.release first entry).registry.readOf? =
        rest.filterMap host.registry.readOf? :=
      List.filterMap_congr fun handle member => by
        rw [Registry.readOf?, others handle member, Registry.readOf?]
    have held : (first :: rest).filterMap host.registry.readOf? =
        entry.session.transfer.toList ++ rest.filterMap host.registry.readOf? := by
      have here : host.registry.readOf? first = entry.session.transfer := by
        rw [Registry.readOf?, lives, Option.bind_some]
      rw [List.filterMap_cons, here]
      cases entry.session.transfer <;> rfl
    simp only [List.map_cons, endAll, endBy_of_entry? consistent (ends first List.mem_cons_self) lives]
    exact
      { answers := congrArg (true :: ·) later.answers
        registry := later.registry
        devices := later.devices.trans (entry.session.detach_devices host.bus)
        nextSerial := later.nextSerial.trans (entry.session.detach_nextSerial host.bus)
        log := by
          rw [later.log, reads, held, List.map_append, ← List.append_assoc]
          exact congrArg (· ++ _) (entry.session.detach_log host.bus)
        consistent := later.consistent }

theorem endBy_ended (consistent : host.Consistent settings) {order : List SessionHandle}
    {ended : List Bool × Host ReplayBus SourceList} (done : EndedIn settings host order ended)
    (distinct : order.Nodup) (live : ∀ handle ∈ order, host.registry.contains handle = true)
    {ending : Ending} {handle : SessionHandle} (member : handle ∈ order)
    (ends : ending.Ends host.registry handle) : ended.2.endBy ending = (false, ended.2) := by
  have gone : ∀ other, ended.2.registry.entry? other =
      if other ∈ order then none else host.registry.entry? other := by
    rw [done.registry]
    exact Registry.entry?_vacateAll order distinct live
  cases ending with
  | byHandle named =>
    cases ends
    exact ended.2.detach_of_stale handle ((gone handle).trans (if_pos member))
  | byDevice device =>
    have absent : ended.2.registry.findDevice? device = none := by
      cases found : ended.2.registry.findDevice? device with
      | none => rfl
      | some other =>
        obtain ⟨entry, lives, same⟩ := ended.2.registry.findDevice?_eq_some device other found
        rw [gone other] at lives
        split at lives
        next => cases lives
        next outside =>
          have before := (consistent.kept.findDevice?_eq_some_iff device other).mpr
            ⟨entry.session, by rw [Registry.session?, lives, Option.map_some], same⟩
          rw [(consistent.kept.findDevice?_eq_some_iff device handle).mpr ends] at before
          cases before
          exact absurd member outside
    simp only [endBy, detachDevice, absent]

theorem shutdown_eq_endAll (host : Host ReplayBus SourceList) :
    host.shutdown = (host.endAll (host.registry.handles.map Ending.byHandle)).2 := by
  have all : ∀ (handles : List SessionHandle) (host : Host ReplayBus SourceList),
      handles.foldl (fun host handle => (host.detach handle).2) host =
        (host.endAll (handles.map Ending.byHandle)).2 := by
    intro handles
    induction handles with
    | nil => exact fun _ => rfl
    | cons first rest ih => exact fun host => ih (host.detach first).2
  exact all host.registry.handles host

/-! ## All sessions at once -/

structure Closed (host after : Host ReplayBus SourceList) : Prop where
  registry : after.registry = host.registry.cleared
  sessions : after.registry.handles = []
  sources : after.inputs.sources = []
  inFlight : after.bus.inFlight = ∅
  devices : after.bus.devices = host.bus.devices

theorem handles_cleared (registry : Registry) : registry.cleared.handles = [] := by
  rw [List.eq_nil_iff_forall_not_mem]
  intro handle member
  have lives := ((Registry.contains_iff _ handle).mp ((Registry.mem_handles _ handle).mp member)).1
  rw [Registry.occupant?, Registry.cleared, List.getElem?_map] at lives
  cases present : registry.slots[handle.slot]? with
  | none => simp [present] at lives
  | some slot =>
    rw [present, Option.map_some, Option.bind_some, RegistrySlot.cleared] at lives
    split at lives
    next => cases lives
    next empty => exact empty lives

theorem Consistent.nothing_of_no_handles (consistent : host.Consistent settings)
    (empty : host.registry.handles = []) :
    host.inputs.sources = [] ∧ host.bus.inFlight = ∅ := by
  have entries : host.registry.entries = [] := by
    rw [Registry.entries, empty]
    rfl
  constructor
  · have sources := consistent.listed.perm
    rw [Registry.liveSources, entries] at sources
    exact sources.eq_nil
  · apply Std.ExtTreeMap.ext_getElem?
    intro transfer
    rw [Std.ExtTreeMap.getElem?_empty, Option.eq_none_iff_forall_ne_some]
    intro device flies
    obtain ⟨number, reading⟩ := (consistent.reads.inFlight transfer device).mp flies
    obtain ⟨handle, session, live, -⟩ :=
      host.registry.exists_session_of_reading? number transfer device reading
    obtain ⟨entry, lives, -⟩ := Option.map_eq_some_iff.mp live
    have member := (host.registry.mem_handles handle).mpr
      (host.registry.contains_of_entry? handle entry lives)
    rw [empty] at member
    cases member

theorem EndedIn.closed {order : List SessionHandle}
    {ended : List Bool × Host ReplayBus SourceList} (done : EndedIn settings host order ended)
    (all : order.Perm host.registry.handles) : host.Closed ended.2 := by
  have registry := done.registry.trans (Registry.vacateAll_of_perm order all)
  have sessions : ended.2.registry.handles = [] := registry ▸ handles_cleared host.registry
  obtain ⟨sources, inFlight⟩ := done.consistent.nothing_of_no_handles sessions
  exact ⟨registry, sessions, sources, inFlight, done.devices⟩

theorem endedIn_of_perm (consistent : host.Consistent settings) (order : List SessionHandle)
    (all : order.Perm host.registry.handles) (way : SessionHandle → Ending)
    (ends : ∀ handle ∈ order, (way handle).Ends host.registry handle) :
    EndedIn settings host order (host.endAll (order.map way)) :=
  endedIn_endAll order way host consistent (all.nodup_iff.mpr host.registry.nodup_handles)
    (fun handle member => (host.registry.mem_handles handle).mp (all.mem_iff.mp member)) ends

theorem endedIn_shutdown (consistent : host.Consistent settings) :
    EndedIn settings host host.registry.handles
      (host.endAll (host.registry.handles.map Ending.byHandle)) :=
  endedIn_of_perm consistent _ (.refl _) Ending.byHandle fun _ _ => rfl

/-- In every state that a run reaches, a shutdown closes everything, and its calls are one
cancellation for each live session that holds a read, in the order of the slots; a second shutdown
does nothing. Ending the same sessions one by one, in any order and each by its handle or by its
device, comes to the same but for the order of the cancellations; and at every moment the sessions
that have ended cannot be ended again, in either way. -/
theorem teardown_complete (settings : RegistrySettings) (keyMap : KeyMap) (steps : List ReplayStep) :
    let host := (create settings keyMap ({} : ReplayBus) ({} : SourceList)).replay steps
    let down := host.shutdown
    host.Closed down ∧
    down.bus.log.toList = host.bus.log.toList ++
      (host.registry.entries.filterMap fun (_, entry) => entry.session.transfer).map .cancel ∧
    down.shutdown = down ∧
    ∀ (order : List SessionHandle) (way : SessionHandle → Ending),
      order.Perm host.registry.handles →
      (∀ handle ∈ order, (way handle).Ends host.registry handle) →
      (host.endAll (order.map way)).1 = order.map (fun _ => true) ∧
      (host.endAll (order.map way)).2.registry = down.registry ∧
      (host.endAll (order.map way)).2.inputs = down.inputs ∧
      (host.endAll (order.map way)).2.bus.forgetLog = down.bus.forgetLog ∧
      ∀ early late, order = early ++ late → ∀ handle ∈ early, ∀ again : Ending,
        again.Ends host.registry handle →
        (host.endAll (early.map way)).2.endBy again = (false, (host.endAll (early.map way)).2) := by
  intro host down
  have consistent : host.Consistent settings := consistent_replay settings keyMap steps
  have shut := endedIn_shutdown consistent
  rw [← Prod.mk.eta (p := host.endAll _), ← host.shutdown_eq_endAll] at shut
  have closed : host.Closed down := shut.closed (.refl _)
  refine ⟨closed, ?_, ?_, ?_⟩
  · rw [← Registry.filterMap_readOf?]
    exact shut.log
  · rw [shutdown, closed.sessions]
    rfl
  · intro order way all ends
    have done := endedIn_of_perm consistent order all way ends
    have alsoClosed := done.closed all
    refine ⟨done.answers, alsoClosed.registry.trans closed.registry.symm, ?_, ?_, ?_⟩
    · exact (SourceList.mk.injEq ..).mpr (alsoClosed.sources.trans closed.sources.symm)
    · refine (ReplayBus.mk.injEq ..).mpr ⟨done.devices.trans shut.devices.symm,
        alsoClosed.inFlight.trans closed.inFlight.symm, done.nextSerial.trans shut.nextSerial.symm, rfl⟩
    · intro early late parts handle member again endsAgain
      subst parts
      have distinct := (all.nodup_iff.mpr host.registry.nodup_handles).sublist
        (List.sublist_append_left early late)
      have live : ∀ handle ∈ early, host.registry.contains handle = true := fun handle member =>
        (host.registry.mem_handles handle).mp (all.mem_iff.mp (List.mem_append_left late member))
      have midway := endedIn_endAll early way host consistent distinct live
        fun handle member => ends handle (List.mem_append_left late member)
      exact endBy_ended consistent midway distinct live member endsAgain

end Host

end Gamepad
