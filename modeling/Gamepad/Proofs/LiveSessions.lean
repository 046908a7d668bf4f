import Gamepad.Proofs.ReplayReads

/-!
What every run keeps true of the registry, over any bus and any input layer: the slots stay as many
as there were, each session has the name of its slot, and no device has two sessions. So a device
and a slot lead to one session each.
-/

namespace Gamepad

theorem SessionHandle.eq_of_parts {first second : SessionHandle} (slot : first.slot = second.slot)
    (generation : first.generation = second.generation) : first = second := by
  cases first
  cases second
  cases slot
  cases generation
  rfl

namespace Registry

/-- The registry as its settings made it, whatever sessions live in it. -/
structure Kept (settings : RegistrySettings) (registry : Registry) : Prop where
  configured : registry.settings =
    { settings with capacity := clampCapacity settings.capacity }
  capacity : registry.capacity = clampCapacity settings.capacity
  named : ∀ number entry, registry.occupant? number = some entry →
    entry.name = s!"{settings.sourceName}{number}"
  single : ∀ first second one other, registry.occupant? first = some one →
    registry.occupant? second = some other →
    one.session.device = other.session.device → first = second

variable {settings : RegistrySettings} {registry : Registry}

theorem kept_create (settings : RegistrySettings) (keyMap : KeyMap) :
    (create settings keyMap).Kept settings := by
  have empty : ∀ number entry, (create settings keyMap).occupant? number ≠ some entry := by
    intro number entry lives
    rw [occupant?_create] at lives
    cases lives
  constructor
  · rfl
  · exact List.length_replicate
  · exact fun number entry lives => absurd lives (empty number entry)
  · exact fun first _ one _ lives => absurd lives (empty first one)

theorem Kept.vacate (kept : registry.Kept settings) (number : Nat) :
    (registry.vacate number).Kept settings := by
  have lived : ∀ other entry, (registry.vacate number).occupant? other = some entry →
      registry.occupant? other = some entry := by
    intro other entry lives
    by_cases same : number = other
    · subst same
      rw [registry.occupant?_vacate_self number] at lives
      cases lives
    · rwa [registry.occupant?_vacate_of_ne number other same] at lives
  constructor
  · exact kept.configured
  · exact (registry.capacity_vacate number).trans kept.capacity
  · exact fun other entry lives => kept.named other entry (lived other entry lives)
  · intro first second one other lives alsoLives
    exact kept.single first second one other (lived _ _ lives) (lived _ _ alsoLives)

theorem Kept.occupy (kept : registry.Kept settings) (number : Nat) (entry : RegistryEntry)
    (inside : number < registry.capacity) (name : entry.name = s!"{settings.sourceName}{number}")
    (alone : ∀ other neighbour, number ≠ other → registry.occupant? other = some neighbour →
      neighbour.session.device ≠ entry.session.device) :
    (registry.occupy number entry).Kept settings := by
  have here := registry.occupant?_occupy_self number entry inside
  constructor
  · exact kept.configured
  · exact (registry.capacity_occupy number entry).trans kept.capacity
  · intro other occupant lives
    by_cases same : number = other
    · subst same
      rw [here] at lives
      cases lives
      exact name
    · rw [registry.occupant?_occupy_of_ne number other entry same] at lives
      exact kept.named other occupant lives
  · intro first second one other lives alsoLives devices
    by_cases firstHere : number = first <;> by_cases secondHere : number = second
    · exact firstHere.symm.trans secondHere
    · subst firstHere
      rw [here] at lives
      cases lives
      rw [registry.occupant?_occupy_of_ne number second _ secondHere] at alsoLives
      exact absurd devices.symm (alone second other secondHere alsoLives)
    · subst secondHere
      rw [here] at alsoLives
      cases alsoLives
      rw [registry.occupant?_occupy_of_ne number first _ firstHere] at lives
      exact absurd devices (alone first one firstHere lives)
    · rw [registry.occupant?_occupy_of_ne number first _ firstHere] at lives
      rw [registry.occupant?_occupy_of_ne number second _ secondHere] at alsoLives
      exact kept.single first second one other lives alsoLives devices

/-! ## Handles -/

theorem entry?_eq (registry : Registry) (handle : SessionHandle) :
    registry.entry? handle =
      if registry.generationAt handle.slot = handle.generation then
        registry.occupant? handle.slot
      else none := by
  unfold entry? occupant? generationAt
  cases registry.slots[handle.slot]? with
  | none => simp
  | some slot => rfl

theorem entry?_create (settings : RegistrySettings) (keyMap : KeyMap) (handle : SessionHandle) :
    entry? (create settings keyMap) handle = none := by
  rw [entry?_eq, occupant?_create, ite_self]

theorem eq_of_slot (registry : Registry) (first second : SessionHandle)
    (live : registry.contains first = true) (alsoLive : registry.contains second = true)
    (slot : first.slot = second.slot) : first = second := by
  obtain ⟨-, generation⟩ := (registry.contains_iff first).mp live
  obtain ⟨-, other⟩ := (registry.contains_iff second).mp alsoLive
  rw [slot, other] at generation
  exact SessionHandle.eq_of_parts slot generation.symm

theorem contains_of_entry? (registry : Registry) (handle : SessionHandle) (entry : RegistryEntry)
    (live : registry.entry? handle = some entry) : registry.contains handle = true := by
  rw [contains, live]
  rfl

/-- Of all the handles that name a slot, only the one of its generation can be live. -/
theorem entry?_of_other_generation (registry : Registry) (handle other : SessionHandle)
    (current : registry.generationAt handle.slot = handle.generation)
    (slot : handle.slot = other.slot) (apart : handle ≠ other) : registry.entry? other = none := by
  rw [entry?_eq, if_neg]
  intro generation
  rw [← slot, current] at generation
  exact apart (SessionHandle.eq_of_parts slot generation)

theorem entry?_occupy (registry : Registry) (handle other : SessionHandle) (entry : RegistryEntry)
    (inside : handle.slot < registry.capacity)
    (current : registry.generationAt handle.slot = handle.generation) :
    entry? (registry.occupy handle.slot entry) other =
      if handle = other then some entry else registry.entry? other := by
  have still : (registry.occupy handle.slot entry).generationAt handle.slot = handle.generation :=
    (registry.generationAt_occupy _ _ entry).trans current
  by_cases same : handle = other
  · subst same
    rw [if_pos rfl, entry?_eq, if_pos still, registry.occupant?_occupy_self _ entry inside]
  · rw [if_neg same]
    by_cases slot : handle.slot = other.slot
    · rw [registry.entry?_of_other_generation handle other current slot same,
        entry?_of_other_generation _ handle other still slot same]
    · rw [entry?_eq, generationAt_occupy, registry.occupant?_occupy_of_ne _ _ entry slot, ← entry?_eq]

theorem entry?_replace (registry : Registry) (handle other : SessionHandle)
    (entry next : RegistryEntry) (live : registry.entry? handle = some entry) :
    entry? (registry.occupy handle.slot next) other =
      if handle = other then some next else registry.entry? other := by
  obtain ⟨lives, current⟩ := (registry.entry?_eq_some_iff handle entry).mp live
  exact registry.entry?_occupy handle other next (registry.lt_capacity_of_occupant? _ entry lives)
    current

theorem entry?_vacate (registry : Registry) (handle other : SessionHandle) (entry : RegistryEntry)
    (live : registry.entry? handle = some entry) :
    entry? (registry.vacate handle.slot) other =
      if handle = other then none else registry.entry? other := by
  have current := ((registry.entry?_eq_some_iff handle entry).mp live).2
  by_cases slot : handle.slot = other.slot
  · have gone : entry? (registry.vacate handle.slot) other = none := by
      rw [entry?_eq, slot, occupant?_vacate_self, ite_self]
    rw [gone]
    by_cases same : handle = other
    · rw [if_pos same]
    · rw [if_neg same, registry.entry?_of_other_generation handle other current slot same]
  · have apart : handle ≠ other := fun same => slot (congrArg SessionHandle.slot same)
    rw [if_neg apart, entry?_eq, registry.occupant?_vacate_of_ne _ _ slot,
      registry.generationAt_vacate_of_ne _ _ slot, ← entry?_eq]

theorem Kept.findDevice?_eq_some_iff (kept : registry.Kept settings) (device : DeviceId)
    (handle : SessionHandle) :
    registry.findDevice? device = some handle ↔
      ∃ session, registry.session? handle = some session ∧ session.device = device := by
  constructor
  · intro found
    obtain ⟨entry, live, same⟩ := registry.findDevice?_eq_some device handle found
    exact ⟨entry.session, by rw [session?, live]; rfl, same⟩
  · rintro ⟨session, opened, rfl⟩
    obtain ⟨entry, live, rfl⟩ := Option.map_eq_some_iff.mp opened
    have lives := ((registry.entry?_eq_some_iff handle entry).mp live).1
    cases found : registry.findDevice? entry.session.device with
    | none => exact absurd rfl ((registry.findDevice?_eq_none_iff _).mp found _ entry lives)
    | some other =>
      obtain ⟨neighbour, alsoLive, same⟩ := registry.findDevice?_eq_some _ other found
      have alsoLives := ((registry.entry?_eq_some_iff other neighbour).mp alsoLive).1
      rw [registry.eq_of_slot other handle (registry.contains_of_entry? other neighbour alsoLive)
        (registry.contains_of_entry? handle entry live)
        (kept.single _ _ neighbour entry alsoLives lives same)]

end Registry

namespace Host

variable {β ι : Type} [Bus β] [InputLayer ι]

theorem kept_move (settings : RegistrySettings) (before after : Host β ι) (move : Move before after)
    (kept : before.registry.Kept settings) : after.registry.Kept settings := by
  cases move with
  | refused device endpoint error refused => exact kept
  | bound keyMap =>
    exact
      { configured := kept.configured
        capacity := kept.capacity
        named := kept.named
        single := kept.single }
  | settled device berth found transfer accepted =>
    obtain ⟨absent, free⟩ := before.registry.berthFor_eq_ok device berth found
    obtain ⟨inside, -⟩ := before.registry.freeHandle?_eq_some _ free
    refine kept.occupy berth.handle.slot _ inside ?_ ?_
    · change s!"{before.registry.settings.sourceName}{berth.handle.slot}" = _
      rw [kept.configured]
    · exact fun other neighbour _ lives =>
        (before.registry.findDevice?_eq_none_iff device.id).mp absent other neighbour lives
  | released handle entry live => exact kept.vacate handle.slot
  | advanced handle entry live =>
    have lives := ((before.registry.entry?_eq_some_iff handle entry).mp live).1
    have name := kept.named handle.slot entry lives
    refine kept.occupy handle.slot _ (before.registry.lt_capacity_of_occupant? _ _ lives) name ?_
    intro other neighbour apart alsoLives devices
    rw [Session.device_poll] at devices
    exact apart (kept.single _ _ entry neighbour lives alsoLives devices.symm)

theorem kept_run (settings : RegistrySettings) (steps : List (HostStep β ι)) (host : Host β ι)
    (kept : host.registry.Kept settings) : (host.run steps).registry.Kept settings :=
  kept_by_run (fun host => host.registry.Kept settings) (kept_move settings) steps
    (fun _ _ _ kept => kept) host kept

end Host

end Gamepad
