import Gamepad.Host
import Gamepad.Proofs.BoundedQueue
import Gamepad.Proofs.FiredControls
import Gamepad.Proofs.Slots

/-!
Sessions and registries with their keys left aside: the queue of a session is known by how many
keys wait and how many were lost. Main statements: what a poll does to a session is decided without
its keys, whatever the key map and the policy; and so are all look-ups of a registry.
-/

namespace Gamepad

inductive PollKind
  | pending
  | noKey
  | key
deriving DecidableEq, Repr

def KeyPoll.kind : KeyPoll → PollKind
  | pending => .pending
  | noKey => .noKey
  | key _ => .key

/-- A session without its keys. -/
structure Standing where
  device : DeviceId
  profile : Profile
  endpoint : Endpoint
  transfer : Option Transfer
  previous : Report
  queued : Nat
  dropped : Nat
deriving DecidableEq, Repr

namespace Session

def standing (session : Session) : Standing where
  device := session.device
  profile := session.profile
  endpoint := session.endpoint
  transfer := session.transfer
  previous := session.previous
  queued := session.queue.size
  dropped := session.queue.dropped

def keyless {β : Type} : KeyPoll × Session × β → PollKind × Standing × β :=
  Prod.map KeyPoll.kind (Prod.map standing id)

theorem kind_advance {β : Type} [Bus β] (session : Session) (bus : β) :
    (session.advance bus).1.kind = if 0 < session.queue.size then .key else .noKey := by
  have waiting := session.queue.isSome_pop
  unfold advance
  cases popped : session.queue.pop.1 with
  | none =>
    rw [popped] at waiting
    rw [if_neg (of_decide_eq_false waiting.symm)]
    simp only [popped]
    rfl
  | some key =>
    rw [popped] at waiting
    rw [if_pos (of_decide_eq_true waiting.symm)]
    simp only [popped]
    rfl

variable {β : Type} [Bus β] {one other : Session} (same : one.standing = other.standing)
include same

theorem receive_standing (keyMap otherMap : KeyMap) (quantizer : Quantizer) (current : Report) :
    (one.receive keyMap quantizer current).standing =
      (other.receive otherMap quantizer current).standing := by
  obtain ⟨device, profile, endpoint, transfer, previous, queued, dropped⟩ :=
    (Standing.mk.injEq ..).mp same
  have count : (Transition.keys quantizer keyMap one.previous current).length =
      (Transition.keys quantizer otherMap other.previous current).length := by
    rw [Transition.keys_eq_map_fired, Transition.keys_eq_map_fired, previous, List.length_map,
      List.length_map]
  let added := Transition.keys quantizer keyMap one.previous current
  let otherAdded := Transition.keys quantizer otherMap other.previous current
  have sizes : (one.queue.pushAll added).size = (other.queue.pushAll otherAdded).size := by
    rw [(one.queue.counts_pushAll added).1, (other.queue.counts_pushAll otherAdded).1, queued, count]
  have losses : (one.queue.pushAll added).dropped = (other.queue.pushAll otherAdded).dropped := by
    rw [(one.queue.counts_pushAll added).2, (other.queue.counts_pushAll otherAdded).2, queued,
      dropped, count]
  exact (Standing.mk.injEq ..).mpr ⟨device, profile, endpoint, transfer, rfl, sizes, losses⟩

theorem keyless_advance (bus : β) :
    keyless (one.advance bus) = keyless (other.advance bus) := by
  obtain ⟨device, profile, endpoint, transfer, previous, queued, dropped⟩ :=
    (Standing.mk.injEq ..).mp same
  have kinds : (one.advance bus).1.kind = (other.advance bus).1.kind := by
    rw [kind_advance, kind_advance, queued]
  have submitted : Bus.submit one.device one.endpoint bus =
      Bus.submit other.device other.endpoint bus := by rw [device, endpoint]
  have sizes : one.queue.pop.2.size = other.queue.pop.2.size := by
    rw [one.queue.counts_pop.1, other.queue.counts_pop.1, queued]
  have losses : one.queue.pop.2.dropped = other.queue.pop.2.dropped := by
    rw [one.queue.counts_pop.2, other.queue.counts_pop.2, dropped]
  refine Prod.ext kinds (Prod.ext ?_ ?_)
  · exact (Standing.mk.injEq ..).mpr ⟨device, profile, endpoint,
      congrArg (fun submitted => submitted.1.toOption) submitted, previous, sizes, losses⟩
  · change (Bus.submit one.device one.endpoint bus).2 = (Bus.submit other.device other.endpoint bus).2
    rw [submitted]

/-- Neither the key map nor the policy nor the keys that wait decide what a poll does, but for the
key that it brings. -/
theorem keyless_poll (keyMap otherMap : KeyMap) (quantizer : Quantizer) (bus : β) :
    keyless (one.poll keyMap quantizer bus) = keyless (other.poll otherMap quantizer bus) := by
  have transfer : one.transfer = other.transfer := congrArg Standing.transfer same
  have profile : one.profile = other.profile := congrArg Standing.profile same
  cases held : other.transfer with
  | none =>
    simp only [poll, transfer, held]
    exact keyless_advance same bus
  | some reading =>
    rcases checked : Bus.check reading bus with ⟨answer, later⟩
    simp only [poll, transfer, held, checked]
    cases answer with
    | pending => exact Prod.ext rfl (Prod.ext same rfl)
    | failed error => exact keyless_advance same later
    | complete raw =>
      rw [profile]
      exact keyless_advance (receive_standing same keyMap otherMap quantizer _) later

theorem detach_standing (bus : β) : (one.detach bus).2 = (other.detach bus).2 := by
  have transfer : one.transfer = other.transfer := congrArg Standing.transfer same
  unfold detach
  rw [transfer]
  cases other.transfer <;> rfl

end Session

def RegistryEntry.standing (entry : RegistryEntry) : String × Standing :=
  (entry.name, entry.session.standing)

def RegistrySlot.standing (slot : RegistrySlot) : UInt32 × Option (String × Standing) :=
  (slot.generation, slot.entry.map RegistryEntry.standing)

namespace Registry

/-- Two registries that differ in the keys of their sessions, in their key maps and in their
policies at most. -/
structure Alike (one other : Registry) : Prop where
  slots : one.slots.map RegistrySlot.standing = other.slots.map RegistrySlot.standing
  settings : other.settings = { one.settings with policy := other.settings.policy }

theorem map_standing_modify (slots : List RegistrySlot) (number : Nat)
    (change : RegistrySlot → RegistrySlot)
    (changeStanding : UInt32 × Option (String × Standing) → UInt32 × Option (String × Standing))
    (commutes : ∀ slot, (change slot).standing = changeStanding slot.standing) :
    (slots.modify number change).map RegistrySlot.standing =
      (slots.map RegistrySlot.standing).modify number changeStanding := by
  apply List.ext_getElem?
  intro index
  simp only [List.getElem?_map, List.getElem?_modify]
  cases slots[index]? with
  | none => rfl
  | some slot =>
    by_cases same : number = index
    · simp [same, commutes]
    · simp [same]

theorem entry?_standing (registry : Registry) (handle : SessionHandle) :
    (registry.entry? handle).map RegistryEntry.standing =
      (registry.slots.map RegistrySlot.standing)[handle.slot]?.bind fun slot =>
        if slot.1 = handle.generation then slot.2 else none := by
  unfold entry?
  rw [List.getElem?_map]
  cases registry.slots[handle.slot]? with
  | none => rfl
  | some slot =>
    dsimp only [Option.map_some, Option.bind_some, RegistrySlot.standing]
    split <;> rfl

theorem handleAt?_standing (registry : Registry) (number : Nat) :
    registry.handleAt? number =
      (registry.slots.map RegistrySlot.standing)[number]?.bind fun slot =>
        slot.2.map fun _ => { slot := number, generation := slot.1 } := by
  unfold handleAt?
  rw [List.getElem?_map]
  cases registry.slots[number]? with
  | none => rfl
  | some slot =>
    dsimp only [Option.map_some, Option.bind_some, RegistrySlot.standing]
    rw [Option.map_map]
    rfl

theorem freeHandle?_standing (registry : Registry) :
    registry.freeHandle? =
      let slots := registry.slots.map RegistrySlot.standing
      (slots.findIdx? fun slot => slot.2.isNone).map fun number =>
        { slot := number, generation := (slots[number]?.map Prod.fst).getD 0 } := by
  have empty : (fun slot : RegistrySlot => slot.entry.isNone) =
      (fun slot : UInt32 × Option (String × Standing) => slot.2.isNone) ∘ RegistrySlot.standing := by
    funext slot
    exact Option.isNone_map.symm
  unfold freeHandle?
  simp only [List.findIdx?_map, empty, List.getElem?_map, Option.map_map]
  rfl

namespace Alike

variable {one other : Registry} (alike : one.Alike other)
include alike

theorem entry? (handle : SessionHandle) :
    (one.entry? handle).map RegistryEntry.standing =
      (other.entry? handle).map RegistryEntry.standing := by
  rw [entry?_standing, entry?_standing, alike.slots]

theorem capacity : one.capacity = other.capacity := by
  have lengths := congrArg List.length alike.slots
  rwa [List.length_map, List.length_map] at lengths

theorem handles : one.handles = other.handles := by
  have each : one.handleAt? = other.handleAt? := by
    funext number
    rw [handleAt?_standing, handleAt?_standing, alike.slots]
  unfold Registry.handles
  rw [alike.capacity, each]

theorem entries :
    one.entries.map (Prod.map id RegistryEntry.standing) =
      other.entries.map (Prod.map id RegistryEntry.standing) := by
  unfold Registry.entries
  rw [alike.handles, List.map_filterMap, List.map_filterMap]
  congr 1
  funext handle
  have present := congrArg (Option.map (Prod.mk handle)) (alike.entry? handle)
  rw [Option.map_map, Option.map_map] at present
  rw [Option.map_map, Option.map_map]
  exact present

theorem findDevice? (device : DeviceId) : one.findDevice? device = other.findDevice? device := by
  have devices (registry : Registry) (handle : SessionHandle) :
      ((registry.session? handle).any fun session => session.device = device) =
        ((registry.entry? handle).map RegistryEntry.standing).any fun entry =>
          entry.2.device = device := by
    rw [session?, Option.any_map, Option.any_map]
    rfl
  unfold Registry.findDevice?
  rw [alike.handles]
  congr 1
  funext handle
  rw [devices, devices, alike.entry?]

theorem berthFor (device : DeviceInfo) : one.berthFor device = other.berthFor device := by
  rw [berthFor_eq, berthFor_eq, alike.findDevice?, alike.capacity, freeHandle?_standing,
    freeHandle?_standing, alike.slots]

theorem nameOf (number : Nat) : one.nameOf number = other.nameOf number := by
  unfold Registry.nameOf
  rw [alike.settings]

theorem occupy (number : Nat) (entry otherEntry : RegistryEntry)
    (same : entry.standing = otherEntry.standing) :
    (one.occupy number entry).Alike (other.occupy number otherEntry) where
  slots := by
    unfold Registry.occupy
    rw [map_standing_modify _ _ _ (fun slot => (slot.1, some entry.standing)) fun _ => rfl,
      map_standing_modify _ _ _ (fun slot => (slot.1, some entry.standing)) fun _ =>
        congrArg (fun standing => (_, some standing)) same.symm, alike.slots]
  settings := alike.settings

theorem vacate (number : Nat) : (one.vacate number).Alike (other.vacate number) where
  slots := by
    unfold Registry.vacate
    rw [map_standing_modify _ _ _ (fun slot => (slot.1 + 1, none)) fun _ => rfl,
      map_standing_modify _ _ _ (fun slot => (slot.1 + 1, none)) fun _ => rfl, alike.slots]
  settings := alike.settings

theorem rebound (keyMap otherMap : KeyMap) :
    Alike { one with keyMap } { other with keyMap := otherMap } where
  slots := alike.slots
  settings := alike.settings

end Alike

theorem alike_create (settings otherSettings : RegistrySettings) (keyMap otherMap : KeyMap)
    (capacity : clampCapacity settings.capacity = clampCapacity otherSettings.capacity)
    (sourceName : settings.sourceName = otherSettings.sourceName)
    (quantizer : settings.quantizer = otherSettings.quantizer) :
    (create settings keyMap).Alike (create otherSettings otherMap) where
  slots := by rw [create, create, capacity]
  settings := by rw [create, create, capacity, sourceName, quantizer]

end Registry
end Gamepad
