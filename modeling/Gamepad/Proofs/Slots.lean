import Gamepad.Registry

/-!
The slots of a registry, one by one: who lives in a slot, and which generation it counts. Every
look-up of the registry is told by these two, and so is every change to a slot.
-/

namespace Gamepad.Registry

def occupant? (registry : Registry) (number : Nat) : Option RegistryEntry :=
  registry.slots[number]?.bind RegistrySlot.entry

def generationAt (registry : Registry) (number : Nat) : UInt32 :=
  (registry.slots[number]?.map RegistrySlot.generation).getD 0

theorem occupant?_create (settings : RegistrySettings) (keyMap : KeyMap) (number : Nat) :
    (create settings keyMap).occupant? number = none := by
  simp only [create, occupant?, List.getElem?_replicate]
  split <;> rfl

/-! ## Changes -/

theorem capacity_occupy (registry : Registry) (number : Nat) (entry : RegistryEntry) :
    (registry.occupy number entry).capacity = registry.capacity := by
  simp [occupy, capacity]

theorem capacity_vacate (registry : Registry) (number : Nat) :
    (registry.vacate number).capacity = registry.capacity := by
  simp [vacate, capacity]

theorem occupant?_occupy_self (registry : Registry) (number : Nat) (entry : RegistryEntry)
    (inside : number < registry.capacity) :
    (registry.occupy number entry).occupant? number = some entry := by
  unfold capacity at inside
  simp [occupy, occupant?, inside]

theorem occupant?_occupy_of_ne (registry : Registry) (number other : Nat) (entry : RegistryEntry)
    (apart : number ≠ other) :
    (registry.occupy number entry).occupant? other = registry.occupant? other := by
  simp [occupy, occupant?, apart]

theorem generationAt_occupy (registry : Registry) (number other : Nat) (entry : RegistryEntry) :
    (registry.occupy number entry).generationAt other = registry.generationAt other := by
  unfold occupy generationAt
  rw [List.getElem?_modify]
  cases registry.slots[other]? with
  | none => rfl
  | some slot => by_cases same : number = other <;> simp [same]

theorem occupant?_vacate_self (registry : Registry) (number : Nat) :
    (registry.vacate number).occupant? number = none := by
  unfold vacate occupant?
  rw [List.getElem?_modify]
  cases registry.slots[number]? <;> simp

theorem occupant?_vacate_of_ne (registry : Registry) (number other : Nat) (apart : number ≠ other) :
    (registry.vacate number).occupant? other = registry.occupant? other := by
  simp [vacate, occupant?, apart]

theorem generationAt_vacate_self (registry : Registry) (number : Nat)
    (inside : number < registry.capacity) :
    (registry.vacate number).generationAt number = registry.generationAt number + 1 := by
  unfold capacity at inside
  simp [vacate, generationAt, inside]

theorem generationAt_vacate_of_ne (registry : Registry) (number other : Nat)
    (apart : number ≠ other) :
    (registry.vacate number).generationAt other = registry.generationAt other := by
  simp [vacate, generationAt, apart]

/-! ## Look-ups -/

theorem lt_capacity_of_occupant? (registry : Registry) (number : Nat) (entry : RegistryEntry)
    (lives : registry.occupant? number = some entry) : number < registry.capacity := by
  apply Nat.lt_of_not_le
  intro outside
  rw [occupant?, List.getElem?_eq_none outside] at lives
  cases lives

theorem entry?_eq_some_iff (registry : Registry) (handle : SessionHandle) (entry : RegistryEntry) :
    registry.entry? handle = some entry ↔
      registry.occupant? handle.slot = some entry ∧
        registry.generationAt handle.slot = handle.generation := by
  unfold entry? occupant? generationAt
  cases registry.slots[handle.slot]? with
  | none => simp
  | some slot => by_cases same : slot.generation = handle.generation <;> simp [same]

theorem contains_iff (registry : Registry) (handle : SessionHandle) :
    registry.contains handle = true ↔
      (registry.occupant? handle.slot).isSome = true ∧
        registry.generationAt handle.slot = handle.generation := by
  simp only [contains, Option.isSome_iff_exists, entry?_eq_some_iff, exists_and_right]

theorem exists_occupant?_of_session? (registry : Registry) (handle : SessionHandle)
    (session : Session) (live : registry.session? handle = some session) :
    ∃ entry, registry.occupant? handle.slot = some entry ∧ entry.session = session := by
  obtain ⟨entry, present, same⟩ := Option.map_eq_some_iff.mp live
  exact ⟨entry, ((registry.entry?_eq_some_iff handle entry).mp present).1, same⟩

theorem session?_of_occupant? (registry : Registry) (number : Nat) (entry : RegistryEntry)
    (lives : registry.occupant? number = some entry) :
    registry.session? { slot := number, generation := registry.generationAt number } =
      some entry.session := by
  rw [session?, (registry.entry?_eq_some_iff _ entry).mpr ⟨lives, rfl⟩, Option.map_some]

theorem generationAt_of_session? (registry : Registry) (handle : SessionHandle) (session : Session)
    (live : registry.session? handle = some session) :
    registry.generationAt handle.slot = handle.generation := by
  obtain ⟨entry, present, -⟩ := Option.map_eq_some_iff.mp live
  exact ((registry.entry?_eq_some_iff handle entry).mp present).2

theorem handleAt?_eq (registry : Registry) (number : Nat) :
    registry.handleAt? number =
      (registry.occupant? number).map fun _ =>
        { slot := number, generation := registry.generationAt number } := by
  unfold handleAt? occupant? generationAt
  cases registry.slots[number]? <;> rfl

theorem mem_handles (registry : Registry) (handle : SessionHandle) :
    handle ∈ registry.handles ↔ registry.contains handle = true := by
  rw [contains_iff, handles, List.mem_filterMap]
  constructor
  · rintro ⟨number, -, found⟩
    rw [handleAt?_eq, Option.map_eq_some_iff] at found
    obtain ⟨entry, lives, rfl⟩ := found
    exact ⟨by rw [lives]; rfl, rfl⟩
  · rintro ⟨lives, current⟩
    obtain ⟨entry, lives⟩ := Option.isSome_iff_exists.mp lives
    refine ⟨handle.slot, List.mem_range.mpr (registry.lt_capacity_of_occupant? _ _ lives), ?_⟩
    rw [handleAt?_eq, lives, current]
    rfl

theorem entries_eq (registry : Registry) :
    registry.entries = (List.range registry.capacity).filterMap fun number =>
      (registry.occupant? number).map fun entry =>
        ({ slot := number, generation := registry.generationAt number }, entry) := by
  unfold entries handles
  rw [List.filterMap_filterMap]
  congr 1
  funext number
  rw [handleAt?_eq]
  cases lives : registry.occupant? number with
  | none => rfl
  | some entry =>
    have present : registry.entry? { slot := number, generation := registry.generationAt number } =
        some entry := (registry.entry?_eq_some_iff _ _).mpr ⟨lives, rfl⟩
    simp only [Option.map_some, Option.bind_some, present]

theorem findDevice?_eq_some (registry : Registry) (device : DeviceId) (handle : SessionHandle)
    (found : registry.findDevice? device = some handle) :
    ∃ entry, registry.entry? handle = some entry ∧ entry.session.device = device := by
  have matched := List.find?_some found
  simp only [session?, Option.any_map, Option.any_eq_true] at matched
  obtain ⟨entry, present, same⟩ := matched
  exact ⟨entry, present, of_decide_eq_true same⟩

theorem findDevice?_eq_none_iff (registry : Registry) (device : DeviceId) :
    registry.findDevice? device = none ↔
      ∀ number entry, registry.occupant? number = some entry → entry.session.device ≠ device := by
  unfold findDevice?
  rw [List.find?_eq_none]
  constructor
  · intro missing number entry lives same
    have handle := missing { slot := number, generation := registry.generationAt number }
      ((registry.mem_handles _).mpr ((registry.contains_iff _).mpr ⟨by rw [lives]; rfl, rfl⟩))
    have present : registry.entry? { slot := number, generation := registry.generationAt number } =
        some entry := (registry.entry?_eq_some_iff _ _).mpr ⟨lives, rfl⟩
    simp [session?, present, same] at handle
  · intro absent handle member matched
    simp only [session?, Option.any_map, Option.any_eq_true] at matched
    obtain ⟨entry, present, same⟩ := matched
    exact absent _ _ ((registry.entry?_eq_some_iff _ _).mp present).1 (of_decide_eq_true same)

theorem freeHandle?_eq_some (registry : Registry) (handle : SessionHandle)
    (free : registry.freeHandle? = some handle) :
    handle.slot < registry.capacity ∧ registry.occupant? handle.slot = none ∧
      (∀ lower < handle.slot, (registry.occupant? lower).isSome = true) ∧
      handle.generation = registry.generationAt handle.slot := by
  rw [freeHandle?, Option.map_eq_some_iff] at free
  obtain ⟨number, found, rfl⟩ := free
  obtain ⟨inside, empty, lower⟩ := List.findIdx?_eq_some_iff_getElem.mp found
  refine ⟨inside, ?_, ?_, rfl⟩
  · simpa [occupant?, List.getElem?_eq_getElem inside] using empty
  · intro other before
    have occupied := lower other before
    simpa [occupant?, List.getElem?_eq_getElem (Nat.lt_trans before inside),
      Option.isSome_iff_ne_none] using occupied

theorem freeHandle?_eq_none_iff (registry : Registry) :
    registry.freeHandle? = none ↔
      ∀ number < registry.capacity, (registry.occupant? number).isSome = true := by
  rw [freeHandle?, Option.map_eq_none_iff, List.findIdx?_eq_none_iff]
  constructor
  · intro occupied number inside
    have taken := occupied _ (List.getElem_mem inside)
    simpa [occupant?, List.getElem?_eq_getElem inside, Option.isSome_iff_ne_none] using taken
  · intro occupied slot member
    obtain ⟨number, inside, rfl⟩ := List.getElem_of_mem member
    have taken := occupied number inside
    simpa [occupant?, List.getElem?_eq_getElem inside, Option.isSome_iff_ne_none] using taken

/-! ## Places for devices -/

/-- The reasons against a device, in the order in which they are looked for. -/
theorem berthFor_eq (registry : Registry) (device : DeviceInfo) :
    registry.berthFor device =
      match Profile.ofIds? device.vendor device.product with
      | none => .error (.unsupportedDevice device.vendor device.product)
      | some profile =>
        if (registry.findDevice? device.id).isSome then .error (.alreadyAttached device.id)
        else
          match device.reportEndpoint? with
          | none => .error (.noInterruptEndpoint device.id)
          | some endpoint =>
            match registry.freeHandle? with
            | none => .error (.registryFull registry.capacity)
            | some handle => .ok { profile, endpoint, handle } := by
  unfold berthFor
  cases Profile.ofIds? device.vendor device.product with
  | none => rfl
  | some profile =>
    by_cases taken : (registry.findDevice? device.id).isSome = true
    · simp only [taken, if_true]
      rfl
    · simp only [taken]
      cases device.reportEndpoint? with
      | none => rfl
      | some endpoint => cases registry.freeHandle? <;> rfl

theorem findDevice?_of_alreadyAttached (registry : Registry) (device : DeviceInfo) (id : DeviceId)
    (refused : registry.berthFor device = .error (.alreadyAttached id)) :
    ∃ handle, registry.findDevice? device.id = some handle := by
  rw [berthFor_eq] at refused
  split at refused
  · cases refused
  · split at refused
    next attached => exact Option.isSome_iff_exists.mp attached
    next =>
      split at refused
      · cases refused
      · split at refused <;> cases refused

theorem berthFor_eq_ok (registry : Registry) (device : DeviceInfo) (berth : Berth)
    (found : registry.berthFor device = .ok berth) :
    registry.findDevice? device.id = none ∧ registry.freeHandle? = some berth.handle := by
  rw [berthFor_eq] at found
  split at found
  · cases found
  · split at found
    · cases found
    next absent =>
      split at found
      · cases found
      · split at found
        · cases found
        next handle free =>
          cases found
          exact ⟨Option.not_isSome_iff_eq_none.mp absent, free⟩

end Gamepad.Registry
