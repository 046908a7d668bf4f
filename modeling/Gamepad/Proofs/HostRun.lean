import Gamepad.Host
import Gamepad.Proofs.Slots
import Mathlib.Logic.Relation

/-!
Runs of a host: any calls in any order, with anything happening to the bus and to the input layer
in between. Whatever a call does is a chain of moves, of which there are five kinds; what every
move keeps is kept by every run.
-/

namespace Gamepad

inductive HostCall
  | attach (device : DeviceInfo)
  | announce (device : DeviceInfo)
  | detach (handle : SessionHandle)
  | detachDevice (device : DeviceId)
  | shutdown
  | poll (handle : SessionHandle)
  | bind (binding : Binding)

inductive HostStep (β ι : Type)
  | call (call : HostCall)
  /-- The bus and the input layer change by themselves. -/
  | outside (change : β × ι → β × ι)

def Session.opened (device : DeviceId) (profile : Profile) (endpoint : Endpoint)
    (policy : OverflowPolicy) (transfer : Transfer) : Session where
  device
  profile
  endpoint
  transfer := some transfer
  previous := profile.idle
  queue := .empty policy

namespace Host

variable {β ι : Type}

def create (settings : RegistrySettings) (keyMap : KeyMap) (bus : β) (inputs : ι) : Host β ι where
  registry := .create settings keyMap
  bus
  inputs

variable [Bus β] [InputLayer ι]

def call (host : Host β ι) : HostCall → Host β ι
  | .attach device => (host.attach device).2
  | .announce device => (host.announce device).2
  | .detach handle => (host.detach handle).2
  | .detachDevice device => (host.detachDevice device).2
  | .shutdown => host.shutdown
  | .poll handle => (host.poll handle).2
  | .bind binding => (host.bind binding).2

def step (host : Host β ι) : HostStep β ι → Host β ι
  | .call call => host.call call
  | .outside change =>
    { host with
      bus := (change (host.bus, host.inputs)).1
      inputs := (change (host.bus, host.inputs)).2 }

def run (host : Host β ι) (steps : List (HostStep β ι)) : Host β ι := steps.foldl step host

/-! ## Moves -/

def settle (host : Host β ι) (device : DeviceInfo) (berth : Registry.Berth) (transfer : Transfer) :
    Host β ι where
  registry := host.registry.occupy berth.handle.slot
    { name := host.registry.nameOf berth.handle.slot
      session := .opened device.id berth.profile berth.endpoint host.registry.settings.policy
        transfer }
  bus := (Bus.submit device.id berth.endpoint host.bus).2
  inputs := InputLayer.register (host.registry.nameOf berth.handle.slot) berth.handle host.inputs

def release (host : Host β ι) (handle : SessionHandle) (entry : RegistryEntry) : Host β ι where
  registry := host.registry.vacate handle.slot
  bus := (entry.session.detach host.bus).2
  inputs := InputLayer.unregister handle host.inputs

def advance (host : Host β ι) (handle : SessionHandle) (entry : RegistryEntry) : Host β ι :=
  let polled := entry.session.poll host.registry.keyMap host.registry.settings.quantizer host.bus
  { host with
    registry := host.registry.occupy handle.slot { entry with session := polled.2.1 }
    bus := polled.2.2 }

/-- One change of a host. -/
inductive Move (host : Host β ι) : Host β ι → Prop
  | refused (device : DeviceId) (endpoint : Endpoint) (error : BusError)
      (refused : (Bus.submit device endpoint host.bus).1 = .error error) :
    Move host { host with bus := (Bus.submit device endpoint host.bus).2 }
  | settled (device : DeviceInfo) (berth : Registry.Berth)
      (found : host.registry.berthFor device = .ok berth) (transfer : Transfer)
      (accepted : (Bus.submit device.id berth.endpoint host.bus).1 = .ok transfer) :
    Move host (host.settle device berth transfer)
  | released (handle : SessionHandle) (entry : RegistryEntry)
      (live : host.registry.entry? handle = some entry) :
    Move host (host.release handle entry)
  | advanced (handle : SessionHandle) (entry : RegistryEntry)
      (live : host.registry.entry? handle = some entry) :
    Move host (host.advance handle entry)
  | bound (keyMap : KeyMap) :
    Move host { host with registry := { host.registry with keyMap } }

theorem attach_eq (host : Host β ι) (device : DeviceInfo) :
    host.attach device =
      match host.registry.berthFor device with
      | .error error => (.error error, host)
      | .ok berth =>
        let (submitted, bus) := Bus.submit device.id berth.endpoint host.bus
        match submitted with
        | .error error => (.error (.submit error), { host with bus })
        | .ok transfer => (.ok berth.handle, host.settle device berth transfer) := by
  unfold attach
  cases host.registry.berthFor device with
  | error error => rfl
  | ok berth =>
    simp only [Session.attach]
    cases (Bus.submit device.id berth.endpoint host.bus).1 <;> rfl

/-- Everything that an attachment can do. -/
theorem attach_cases (host : Host β ι) (device : DeviceInfo) :
    (∃ error, host.registry.berthFor device = .error error ∧
      host.attach device = (.error error, host)) ∨
    (∃ berth error, host.registry.berthFor device = .ok berth ∧
      (Bus.submit device.id berth.endpoint host.bus).1 = .error error ∧
      host.attach device = (.error (.submit error),
        { host with bus := (Bus.submit device.id berth.endpoint host.bus).2 })) ∨
    (∃ berth transfer, host.registry.berthFor device = .ok berth ∧
      (Bus.submit device.id berth.endpoint host.bus).1 = .ok transfer ∧
      host.attach device = (.ok berth.handle, host.settle device berth transfer)) := by
  rw [attach_eq]
  cases found : host.registry.berthFor device with
  | error error => exact .inl ⟨error, rfl, rfl⟩
  | ok berth =>
    cases submitted : (Bus.submit device.id berth.endpoint host.bus).1 with
    | error error =>
      simp only [submitted]
      exact .inr (.inl ⟨berth, error, rfl, submitted, rfl⟩)
    | ok transfer =>
      simp only [submitted]
      exact .inr (.inr ⟨berth, transfer, rfl, submitted, rfl⟩)

theorem detach_of_entry? (host : Host β ι) (handle : SessionHandle) (entry : RegistryEntry)
    (live : host.registry.entry? handle = some entry) :
    host.detach handle = (true, host.release handle entry) := by
  simp only [detach, live]
  rfl

theorem detach_of_stale (host : Host β ι) (handle : SessionHandle)
    (stale : host.registry.entry? handle = none) : host.detach handle = (false, host) := by
  simp only [detach, stale]

omit [InputLayer ι] in
theorem poll_of_entry? (host : Host β ι) (handle : SessionHandle) (entry : RegistryEntry)
    (live : host.registry.entry? handle = some entry) :
    host.poll handle =
      (.ok (entry.session.poll host.registry.keyMap host.registry.settings.quantizer host.bus).1,
        host.advance handle entry) := by
  simp only [poll, live]
  rfl

omit [InputLayer ι] in
theorem poll_of_stale (host : Host β ι) (handle : SessionHandle)
    (stale : host.registry.entry? handle = none) :
    host.poll handle = (.error (.staleHandle handle), host) := by
  simp only [poll, stale]

omit [Bus β] [InputLayer ι] in
theorem bind_snd (host : Host β ι) (binding : Binding) :
    ∃ keyMap, (host.bind binding).2 = { host with registry := { host.registry with keyMap } } := by
  unfold bind
  split
  next => exact ⟨host.registry.keyMap, rfl⟩
  next keyMap applied => exact ⟨_, rfl⟩

open Relation

theorem moves_attach (host : Host β ι) (device : DeviceInfo) :
    ReflTransGen Move host (host.attach device).2 := by
  rcases host.attach_cases device with ⟨_, _, same⟩ | ⟨_, _, _, error, same⟩ | ⟨_, _, found, ok, same⟩
  · rw [same]
  · rw [same]
    exact .single (.refused _ _ _ error)
  · rw [same]
    exact .single (.settled _ _ found _ ok)

theorem moves_detach (host : Host β ι) (handle : SessionHandle) :
    ReflTransGen Move host (host.detach handle).2 := by
  cases live : host.registry.entry? handle with
  | none => rw [host.detach_of_stale handle live]
  | some entry =>
    rw [host.detach_of_entry? handle entry live]
    exact .single (.released handle entry live)

theorem moves_call (host : Host β ι) (call : HostCall) :
    ReflTransGen Move host (host.call call) := by
  cases call with
  | attach device => exact host.moves_attach device
  | announce device => exact host.moves_attach device
  | detach handle => exact host.moves_detach handle
  | detachDevice device =>
    simp only [Host.call, detachDevice]
    split
    next handle _ => exact host.moves_detach handle
    next => rfl
  | shutdown =>
    simp only [Host.call, shutdown]
    induction host.registry.handles generalizing host with
    | nil => rfl
    | cons handle rest ih => exact (host.moves_detach handle).trans (ih _)
  | poll handle =>
    simp only [Host.call]
    cases live : host.registry.entry? handle with
    | none => rw [host.poll_of_stale handle live]
    | some entry =>
      rw [host.poll_of_entry? handle entry live]
      exact .single (.advanced handle entry live)
  | bind binding =>
    obtain ⟨keyMap, same⟩ := host.bind_snd binding
    rw [Host.call, same]
    exact .single (.bound keyMap)

/-- What every move keeps is kept by a run, as long as the steps from outside keep it too. -/
theorem kept_by_run (Kept : Host β ι → Prop)
    (move : ∀ before after, Move before after → Kept before → Kept after)
    (steps : List (HostStep β ι))
    (outside : ∀ change, .outside change ∈ steps → ∀ host : Host β ι, Kept host →
      Kept (host.step (.outside change)))
    (host : Host β ι) (start : Kept host) : Kept (host.run steps) := by
  induction steps generalizing host with
  | nil => exact start
  | cons step rest ih =>
    refine ih (fun change member => outside change (List.mem_cons_of_mem _ member)) _ ?_
    cases step with
    | outside change => exact outside change List.mem_cons_self host start
    | call call =>
      have moves := host.moves_call call
      simp only [Host.step]
      generalize host.call call = after at moves ⊢
      induction moves with
      | refl => exact start
      | tail _ last kept => exact move _ _ last kept

end Host

end Gamepad
