import Gamepad.Proofs.LiveSessions
import Std.Data.String.ToNat

/-!
What the input layer knows of the sessions. Main statement: over any bus, slots, sessions and
sources stay in step, so that slot, device, handle and name all lead to the same session.
-/

namespace Gamepad

/-- A step of a run in which the bus may change by itself and the input layer may not. -/
inductive DrivenStep (β : Type)
  | call (made : HostCall)
  | busChange (change : β → β)

def DrivenStep.onHost {β ι : Type} : DrivenStep β → HostStep β ι
  | .call made => .call made
  | .busChange change => .outside fun (bus, inputs) => (change bus, inputs)

def Host.drive {β ι : Type} [Bus β] [InputLayer ι] (host : Host β ι) (steps : List (DrivenStep β)) :
    Host β ι :=
  host.run (steps.map DrivenStep.onHost)

namespace Registry

variable {settings : RegistrySettings} (registry : Registry)

/-! ## Names -/

theorem name?_occupy (handle other : SessionHandle) (entry : RegistryEntry)
    (inside : handle.slot < registry.capacity)
    (current : registry.generationAt handle.slot = handle.generation) :
    (registry.occupy handle.slot entry).name? other =
      if handle = other then some entry.name else registry.name? other := by
  rw [name?, registry.entry?_occupy handle other entry inside current, apply_ite (Option.map _)]
  rfl

theorem name?_replace (handle other : SessionHandle) (entry next : RegistryEntry)
    (live : registry.entry? handle = some entry) (name : next.name = entry.name) :
    (registry.occupy handle.slot next).name? other = registry.name? other := by
  rw [name?, registry.entry?_replace handle other entry next live, name?]
  split
  next same =>
    rw [← same, live]
    exact congrArg some name
  next => rfl

theorem name?_vacate (handle other : SessionHandle) (entry : RegistryEntry)
    (live : registry.entry? handle = some entry) :
    (registry.vacate handle.slot).name? other =
      if handle = other then none else registry.name? other := by
  rw [name?, registry.entry?_vacate handle other entry live, apply_ite (Option.map _)]
  rfl

theorem Kept.name_of_name? {registry : Registry} (kept : registry.Kept settings)
    (handle : SessionHandle) (name : String) (named : registry.name? handle = some name) :
    name = s!"{settings.sourceName}{handle.slot}" := by
  obtain ⟨entry, live, rfl⟩ := Option.map_eq_some_iff.mp named
  exact kept.named handle.slot entry ((registry.entry?_eq_some_iff handle entry).mp live).1

/-- A name leads to one session, since the number of a slot can be read off it. -/
theorem Kept.eq_of_name? {registry : Registry} (kept : registry.Kept settings)
    (first second : SessionHandle) (name : String) (named : registry.name? first = some name)
    (alsoNamed : registry.name? second = some name) : first = second := by
  have numbers : s!"{settings.sourceName}{first.slot}" = s!"{settings.sourceName}{second.slot}" :=
    (kept.name_of_name? first name named).symm.trans (kept.name_of_name? second name alsoNamed)
  have slots : first.slot = second.slot := Nat.repr_inj.mp ((String.append_right_inj _).mp numbers)
  obtain ⟨one, live, -⟩ := Option.map_eq_some_iff.mp named
  obtain ⟨other, alsoLive, -⟩ := Option.map_eq_some_iff.mp alsoNamed
  exact registry.eq_of_slot first second (registry.contains_of_entry? first one live)
    (registry.contains_of_entry? second other alsoLive) slots

/-! ## The live sessions as a list -/

theorem mem_entries (handle : SessionHandle) (entry : RegistryEntry) :
    (handle, entry) ∈ registry.entries ↔ registry.entry? handle = some entry := by
  rw [entries, List.mem_filterMap]
  constructor
  · rintro ⟨other, -, found⟩
    obtain ⟨_, live, same⟩ := Option.map_eq_some_iff.mp found
    cases same
    exact live
  · intro live
    refine ⟨handle, (registry.mem_handles handle).mpr ?_, by rw [live]; rfl⟩
    exact registry.contains_of_entry? handle entry live

theorem entries_ascend :
    registry.entries.Pairwise fun earlier later => earlier.1.slot < later.1.slot := by
  rw [entries_eq]
  refine List.Pairwise.filterMap _ ?_ List.pairwise_lt_range
  intro number next below one found other alsoFound
  obtain ⟨_, -, rfl⟩ := Option.map_eq_some_iff.mp found
  obtain ⟨_, -, rfl⟩ := Option.map_eq_some_iff.mp alsoFound
  exact below

def liveSources : List (String × SessionHandle) :=
  registry.entries.map fun (handle, entry) => (entry.name, handle)

theorem mem_liveSources (name : String) (handle : SessionHandle) :
    (name, handle) ∈ registry.liveSources ↔ registry.name? handle = some name := by
  rw [liveSources, List.mem_map, name?, Option.map_eq_some_iff]
  constructor
  · rintro ⟨⟨_, entry⟩, member, same⟩
    cases same
    exact ⟨entry, (registry.mem_entries _ entry).mp member, rfl⟩
  · rintro ⟨entry, live, rfl⟩
    exact ⟨(handle, entry), (registry.mem_entries handle entry).mpr live, rfl⟩

theorem nodup_liveSources : registry.liveSources.Nodup := by
  refine List.pairwise_map.mpr (registry.entries_ascend.imp ?_)
  intro earlier later below same
  have handles : earlier.1 = later.1 := congrArg Prod.snd same
  rw [handles] at below
  exact Nat.lt_irrefl _ below

theorem handleAt?_eq_some_iff (number : Nat) (handle : SessionHandle) :
    registry.handleAt? number = some handle ↔
      registry.contains handle = true ∧ handle.slot = number := by
  rw [handleAt?_eq, Option.map_eq_some_iff, contains_iff]
  constructor
  · rintro ⟨entry, lives, rfl⟩
    exact ⟨⟨by rw [lives]; rfl, rfl⟩, rfl⟩
  · rintro ⟨⟨lives, current⟩, rfl⟩
    obtain ⟨entry, lives⟩ := Option.isSome_iff_exists.mp lives
    exact ⟨entry, lives, SessionHandle.eq_of_parts rfl current⟩

end Registry

/-! ## Sources -/

/-- The sources name the live sessions, each once, and nothing else. -/
structure Registry.Listed (registry : Registry) (inputs : SourceList) : Prop where
  nodup : inputs.sources.Nodup
  named : ∀ name handle, (name, handle) ∈ inputs.sources ↔ registry.name? handle = some name

theorem Registry.listed_create (settings : RegistrySettings) (keyMap : KeyMap) :
    (create settings keyMap).Listed {} where
  nodup := List.nodup_nil
  named name handle := by
    rw [name?, entry?_create]
    simp

namespace Registry.Listed

variable {registry later : Registry} {inputs : SourceList}

theorem of_same (listed : registry.Listed inputs)
    (names : ∀ handle, later.name? handle = registry.name? handle) : later.Listed inputs where
  nodup := listed.nodup
  named name handle := by
    rw [names]
    exact listed.named name handle

theorem register (listed : registry.Listed inputs) (name : String) (handle : SessionHandle)
    (absent : registry.name? handle = none)
    (names : ∀ other, later.name? other =
      if handle = other then some name else registry.name? other) :
    later.Listed (InputLayer.register name handle inputs) where
  nodup := by
    have new : (name, handle) ∉ inputs.sources := by
      intro member
      have named := (listed.named name handle).mp member
      rw [absent] at named
      cases named
    change (inputs.sources ++ [(name, handle)]).Nodup
    refine List.nodup_append.mpr ⟨listed.nodup, List.pairwise_singleton _ _, ?_⟩
    intro source member added only same
    rw [List.mem_singleton.mp only] at same
    exact new (same ▸ member)
  named other source := by
    change (other, source) ∈ inputs.sources ++ [(name, handle)] ↔ _
    rw [names, List.mem_append, listed.named, List.mem_singleton]
    by_cases same : handle = source
    · subst same
      simp [absent, eq_comm]
    · have apart : (other, source) ≠ (name, handle) := fun equal => same (congrArg Prod.snd equal).symm
      simp [same, apart]

theorem unregister (listed : registry.Listed inputs) (handle : SessionHandle)
    (names : ∀ other, later.name? other = if handle = other then none else registry.name? other) :
    later.Listed (InputLayer.unregister handle inputs) where
  nodup := listed.nodup.filter _
  named name source := by
    change (name, source) ∈ inputs.sources.filter (fun source => source.2 ≠ handle) ↔ _
    rw [names, List.mem_filter, listed.named]
    by_cases same : handle = source
    · simp [same]
    · simp [same, eq_comm]

theorem perm (listed : registry.Listed inputs) : inputs.sources.Perm registry.liveSources := by
  rw [List.perm_ext_iff_of_nodup listed.nodup registry.nodup_liveSources]
  rintro ⟨name, handle⟩
  rw [listed.named, registry.mem_liveSources]

theorem find? (listed : registry.Listed inputs) {settings : RegistrySettings}
    (kept : registry.Kept settings) (name : String) (handle : SessionHandle)
    (named : registry.name? handle = some name) : inputs.find? name = some handle := by
  have member := (listed.named name handle).mpr named
  unfold SourceList.find?
  cases found : inputs.sources.lookup name with
  | none =>
    have apart := List.lookup_eq_none_iff.mp found _ member
    simp at apart
  | some other =>
    obtain ⟨before, after, parts, -⟩ := List.lookup_eq_some_iff.mp found
    have alsoMember : (name, other) ∈ inputs.sources := by simp [parts]
    have alsoNamed := (listed.named name other).mp alsoMember
    rw [kept.eq_of_name? other handle name alsoNamed named]

end Registry.Listed

namespace Host

variable {β : Type}

/-- Slots, sessions and sources in step, and every look-up true to the live sessions. -/
structure InStep (settings : RegistrySettings) (host : Host β SourceList) : Prop where
  capacity : host.registry.capacity = Registry.clampCapacity settings.capacity ∧
    1 ≤ host.registry.capacity ∧ host.registry.capacity ≤ 16 ∧
    host.registry.size ≤ host.registry.capacity
  devices : ∀ first second one other, host.registry.session? first = some one →
    host.registry.session? second = some other → one.device = other.device → first = second
  sources : host.inputs.sources.Perm
    (host.registry.entries.map fun (handle, entry) => (entry.name, handle))
  nodup : host.inputs.sources.Nodup
  names : ∀ handle name, host.registry.name? handle = some name →
    name = s!"{settings.sourceName}{handle.slot}"
  bySlot : ∀ number handle, host.registry.handleAt? number = some handle ↔
    host.registry.contains handle = true ∧ handle.slot = number
  byDevice : ∀ device handle, host.registry.findDevice? device = some handle ↔
    ∃ session, host.registry.session? handle = some session ∧ session.device = device
  byName : ∀ handle name, host.registry.name? handle = some name →
    host.inputs.find? name = some handle
  entries : ∀ handle entry, (handle, entry) ∈ host.registry.entries ↔
    host.registry.entry? handle = some entry
  ascending : host.registry.entries.Pairwise fun earlier later => earlier.1.slot < later.1.slot

variable [Bus β]

theorem listed_move (before after : Host β SourceList) (move : Move before after)
    (listed : before.registry.Listed before.inputs) : after.registry.Listed after.inputs := by
  cases move with
  | refused device endpoint error refused => exact listed
  | bound keyMap => exact listed.of_same fun _ => rfl
  | settled device berth found transfer accepted =>
    have free := (before.registry.berthFor_eq_ok device berth found).2
    obtain ⟨inside, empty, -, current⟩ := before.registry.freeHandle?_eq_some _ free
    have absent : before.registry.name? berth.handle = none := by
      rw [Registry.name?, Registry.entry?_eq, empty, ite_self]
      rfl
    exact listed.register _ berth.handle absent fun other =>
      before.registry.name?_occupy berth.handle other _ inside current.symm
  | released handle entry live =>
    exact listed.unregister handle fun other => before.registry.name?_vacate handle other entry live
  | advanced handle entry live =>
    exact listed.of_same fun other => before.registry.name?_replace handle other entry _ live rfl

theorem listed_drive (host : Host β SourceList) (steps : List (DrivenStep β))
    (listed : host.registry.Listed host.inputs) :
    (host.drive steps).registry.Listed (host.drive steps).inputs := by
  refine kept_by_run (fun host => host.registry.Listed host.inputs) listed_move _ ?_ host listed
  intro change member host listed
  obtain ⟨step, -, same⟩ := List.mem_map.mp member
  cases step with
  | call made => cases same
  | busChange change =>
    cases same
    exact listed

/-- Whatever is called and whatever the bus answers, slots, sessions and sources stay in step. -/
theorem sources_in_step (settings : RegistrySettings) (keyMap : KeyMap) (bus : β)
    (steps : List (DrivenStep β)) :
    InStep settings ((create settings keyMap bus {}).drive steps) := by
  let start : Host β SourceList := create settings keyMap bus {}
  have kept := kept_run settings (steps.map DrivenStep.onHost) start
    (Registry.kept_create settings keyMap)
  have listed := listed_drive start steps (Registry.listed_create settings keyMap)
  change (start.drive steps).registry.Kept settings at kept
  change InStep settings (start.drive steps)
  generalize start.drive steps = host at kept listed
  constructor
  case capacity =>
    have clamped := kept.capacity
    unfold Registry.clampCapacity at clamped ⊢
    exact ⟨clamped, by omega, by omega, List.countP_le_length⟩
  case devices =>
    intro first second one other opened alsoOpened same
    have found := (kept.findDevice?_eq_some_iff other.device first).mpr ⟨one, opened, same⟩
    have alsoFound := (kept.findDevice?_eq_some_iff other.device second).mpr ⟨other, alsoOpened, rfl⟩
    exact Option.some.inj (found.symm.trans alsoFound)
  case sources => exact listed.perm
  case nodup => exact listed.nodup
  case names => exact kept.name_of_name?
  case bySlot => exact host.registry.handleAt?_eq_some_iff
  case byDevice => exact kept.findDevice?_eq_some_iff
  case byName => exact fun handle name => listed.find? kept name handle
  case entries => exact host.registry.mem_entries
  case ascending => exact host.registry.entries_ascend

end Host

end Gamepad
