import Gamepad.Proofs.ReplayRun
import Gamepad.Proofs.Standing

/-!
Runs of two hosts that differ in their policies and their key maps. Bindings may be made in each of
them at any time; they do not show in what is seen of a host. Main statement: at every step the
two hosts give the same answers and look the same, but for the keys that the polls bring.
-/

namespace Gamepad

def ReplayStep.binds : ReplayStep → Bool
  | .call (.bind _) => true
  | _ => false

inductive StepAnswer
  | attached (answer : Except AttachError SessionHandle)
  | told (flag : Bool)
  | polled (answer : Except RegistryError PollKind)
  | silent
deriving DecidableEq

/-- A host with its keys, its key map and its policy left aside. -/
structure HostView (ι : Type) where
  sessions : List (SessionHandle × String × Standing)
  bus : ReplayBus
  inputs : ι
deriving DecidableEq

namespace Host

section AnyBus

variable {β ι : Type} {one other : Host β ι}

structure Alike (one other : Host β ι) : Prop where
  registry : one.registry.Alike other.registry
  bus : one.bus = other.bus
  inputs : one.inputs = other.inputs

theorem Alike.refl (host : Host β ι) : host.Alike host :=
  ⟨⟨rfl, rfl⟩, rfl, rfl⟩

theorem Alike.entry?_cases (alike : one.Alike other) (handle : SessionHandle) :
    (one.registry.entry? handle = none ∧ other.registry.entry? handle = none) ∨
    ∃ entry otherEntry, one.registry.entry? handle = some entry ∧
      other.registry.entry? handle = some otherEntry ∧ entry.standing = otherEntry.standing := by
  have same := alike.registry.entry? handle
  cases live : one.registry.entry? handle with
  | none =>
    rw [live, Option.map_none] at same
    exact .inl ⟨rfl, Option.map_eq_none_iff.mp same.symm⟩
  | some entry =>
    rw [live, Option.map_some] at same
    obtain ⟨otherEntry, alsoLive, standing⟩ := Option.map_eq_some_iff.mp same.symm
    exact .inr ⟨entry, otherEntry, rfl, alsoLive, standing.symm⟩

theorem Alike.bind_left (alike : one.Alike other) (binding : Binding) :
    (one.bind binding).2.Alike other := by
  obtain ⟨keyMap, bound⟩ := one.bind_snd binding
  rw [bound]
  exact ⟨alike.registry.rebound keyMap other.registry.keyMap, alike.bus, alike.inputs⟩

variable [Bus β] [InputLayer ι]

theorem Alike.attach (alike : one.Alike other) (device : DeviceInfo) :
    (one.attach device).1 = (other.attach device).1 ∧
      (one.attach device).2.Alike (other.attach device).2 := by
  rw [one.attach_eq, other.attach_eq, alike.registry.berthFor device]
  cases other.registry.berthFor device with
  | error error => exact ⟨rfl, alike⟩
  | ok berth =>
    have submitted : Bus.submit device.id berth.endpoint one.bus =
        Bus.submit device.id berth.endpoint other.bus := by rw [alike.bus]
    simp only [submitted]
    cases (Bus.submit device.id berth.endpoint other.bus).1 with
    | error error =>
      exact ⟨rfl,
        { registry := alike.registry
          bus := rfl
          inputs := alike.inputs }⟩
    | ok transfer =>
      have name := alike.registry.nameOf berth.handle.slot
      refine ⟨rfl,
        { registry := alike.registry.occupy berth.handle.slot _ _ (Prod.ext name rfl)
          bus := congrArg Prod.snd submitted
          inputs := ?_ }⟩
      change InputLayer.register _ _ one.inputs = InputLayer.register _ _ other.inputs
      rw [name, alike.inputs]

theorem Alike.detach (alike : one.Alike other) (handle : SessionHandle) :
    (one.detach handle).1 = (other.detach handle).1 ∧
      (one.detach handle).2.Alike (other.detach handle).2 := by
  rcases alike.entry?_cases handle with ⟨stale, alsoStale⟩ | ⟨entry, otherEntry, live, alsoLive, same⟩
  · rw [one.detach_of_stale handle stale, other.detach_of_stale handle alsoStale]
    exact ⟨rfl, alike⟩
  · have cancelled : (entry.session.detach one.bus).2 = (otherEntry.session.detach other.bus).2 := by
      rw [alike.bus]
      exact Session.detach_standing (congrArg Prod.snd same) other.bus
    rw [one.detach_of_entry? handle entry live, other.detach_of_entry? handle otherEntry alsoLive]
    exact ⟨rfl,
      { registry := alike.registry.vacate handle.slot
        bus := cancelled
        inputs := congrArg (InputLayer.unregister handle) alike.inputs }⟩

theorem Alike.detachDevice (alike : one.Alike other) (device : DeviceId) :
    (one.detachDevice device).1 = (other.detachDevice device).1 ∧
      (one.detachDevice device).2.Alike (other.detachDevice device).2 := by
  unfold Host.detachDevice
  rw [alike.registry.findDevice? device]
  cases other.registry.findDevice? device with
  | none => exact ⟨rfl, alike⟩
  | some handle => exact alike.detach handle

theorem Alike.shutdown (alike : one.Alike other) : one.shutdown.Alike other.shutdown := by
  unfold Host.shutdown
  rw [alike.registry.handles]
  induction other.registry.handles generalizing one other with
  | nil => exact alike
  | cons handle rest ih => exact ih (alike.detach handle).2

omit [InputLayer ι] in
theorem Alike.poll (alike : one.Alike other) (handle : SessionHandle) :
    (one.poll handle).1.map KeyPoll.kind = (other.poll handle).1.map KeyPoll.kind ∧
      (one.poll handle).2.Alike (other.poll handle).2 := by
  rcases alike.entry?_cases handle with ⟨stale, alsoStale⟩ | ⟨entry, otherEntry, live, alsoLive, same⟩
  · rw [one.poll_of_stale handle stale, other.poll_of_stale handle alsoStale]
    exact ⟨rfl, alike⟩
  · obtain ⟨name, standing⟩ := Prod.ext_iff.mp same
    have quantizer : other.registry.settings.quantizer = one.registry.settings.quantizer := by
      rw [alike.registry.settings]
    have polled := Session.keyless_poll standing one.registry.keyMap other.registry.keyMap
      other.registry.settings.quantizer other.bus
    obtain ⟨kind, rest⟩ := Prod.ext_iff.mp polled
    obtain ⟨later, bus⟩ := Prod.ext_iff.mp rest
    rw [one.poll_of_entry? handle entry live, other.poll_of_entry? handle otherEntry alsoLive]
    simp only [advance, alike.bus, ← quantizer]
    exact ⟨congrArg Except.ok kind,
      { registry := alike.registry.occupy handle.slot _ _ (Prod.ext name later)
        bus := bus
        inputs := alike.inputs }⟩

end AnyBus

variable {ι : Type} [InputLayer ι]

def answer (host : Host ReplayBus ι) : ReplayStep → StepAnswer
  | .call (.attach device) => .attached (host.attach device).1
  | .call (.announce device) => .told (host.announce device).1
  | .call (.detach handle) => .told (host.detach handle).1
  | .call (.detachDevice device) => .told (host.detachDevice device).1
  | .call (.poll handle) => .polled ((host.poll handle).1.map KeyPoll.kind)
  | .call .shutdown => .silent
  | .call (.bind _) => .silent
  | .script _ => .silent

def view (host : Host ReplayBus ι) : HostView ι where
  sessions := host.registry.entries.map (Prod.map id RegistryEntry.standing)
  bus := host.bus
  inputs := host.inputs

/-- What is answered to every step but the bindings, and what is seen afterwards. -/
def trace : List ReplayStep → Host ReplayBus ι → List (StepAnswer × HostView ι)
  | [], _ => []
  | step :: rest, host =>
    let later := host.step step.onHost
    if step.binds then trace rest later
    else (host.answer step, later.view) :: trace rest later

variable {one other : Host ReplayBus ι}

omit [InputLayer ι] in
theorem Alike.view (alike : one.Alike other) : one.view = other.view := by
  unfold Host.view
  rw [alike.registry.entries, alike.bus, alike.inputs]

theorem Alike.step (alike : one.Alike other) (step : ReplayStep) (unbinding : step.binds = false) :
    one.answer step = other.answer step ∧
      (one.step step.onHost).Alike (other.step step.onHost) := by
  cases step with
  | script change =>
    refine ⟨rfl,
      { registry := alike.registry
        bus := ?_
        inputs := alike.inputs }⟩
    change one.bus.apply change = other.bus.apply change
    rw [alike.bus]
  | call made =>
    cases made with
    | attach device =>
      obtain ⟨answer, later⟩ := alike.attach device
      exact ⟨congrArg StepAnswer.attached answer, later⟩
    | announce device =>
      obtain ⟨answer, later⟩ := alike.attach device
      refine ⟨?_, later⟩
      change StepAnswer.told (one.attach device).1.isOk = .told (other.attach device).1.isOk
      rw [answer]
    | detach handle =>
      obtain ⟨answer, later⟩ := alike.detach handle
      exact ⟨congrArg StepAnswer.told answer, later⟩
    | detachDevice device =>
      obtain ⟨answer, later⟩ := alike.detachDevice device
      exact ⟨congrArg StepAnswer.told answer, later⟩
    | shutdown => exact ⟨rfl, alike.shutdown⟩
    | poll handle =>
      obtain ⟨answer, later⟩ := alike.poll handle
      exact ⟨congrArg StepAnswer.polled answer, later⟩
    | bind binding => cases unbinding

theorem Alike.step_binding (alike : one.Alike other) (step : ReplayStep) (binds : step.binds = true) :
    (one.step step.onHost).Alike other := by
  cases step with
  | script change => cases binds
  | call made =>
    cases made with
    | bind binding => exact alike.bind_left binding
    | _ => cases binds

theorem Alike.trace (alike : one.Alike other) (steps : List ReplayStep) :
    let unbinding := steps.filter fun step => !step.binds
    one.trace steps = other.trace unbinding ∧ (one.replay steps).Alike (other.replay unbinding) := by
  intro unbinding
  -- A binding moves the first host only; every other step moves both.
  induction steps generalizing one other with
  | nil => exact ⟨rfl, alike⟩
  | cons step rest ih =>
    cases binds : step.binds with
    | true =>
      have kept : unbinding = rest.filter fun step => !step.binds :=
        List.filter_cons_of_neg (by simp [binds])
      rw [kept, Host.trace, if_pos binds]
      exact ih (alike.step_binding step binds)
    | false =>
      have kept : unbinding = step :: rest.filter fun step => !step.binds :=
        List.filter_cons_of_pos (by simp [binds])
      obtain ⟨answer, later⟩ := alike.step step binds
      obtain ⟨traces, ends⟩ := ih later
      rw [kept, Host.trace, Host.trace, if_neg (by simp [binds]), answer, later.view, traces,
        if_neg (by simp [binds])]
      exact ⟨rfl, ends⟩

/-- Two hosts whose settings differ in the policy at most make the same steps, with any key maps and
any bindings in between. Each step is answered alike but for the key of a poll, and after each the
two have the same sessions, down to how many keys wait and how many were lost, the same bus with
the same log, and the same sources. -/
theorem mapping_and_policy_only_choose_keys (settings otherSettings : RegistrySettings)
    (capacity : Registry.clampCapacity settings.capacity =
      Registry.clampCapacity otherSettings.capacity)
    (sourceName : settings.sourceName = otherSettings.sourceName)
    (quantizer : settings.quantizer = otherSettings.quantizer) (keyMap otherMap : KeyMap)
    (inputs : ι) (steps otherSteps : List ReplayStep)
    (sameSteps : steps.filter (fun step => !step.binds) =
      otherSteps.filter fun step => !step.binds) :
    let one := create settings keyMap ({} : ReplayBus) inputs
    let other := create otherSettings otherMap ({} : ReplayBus) inputs
    one.trace steps = other.trace otherSteps ∧
      (one.replay steps).view = (other.replay otherSteps).view := by
  intro one other
  have alike : one.Alike other :=
    { registry := Registry.alike_create settings otherSettings keyMap otherMap capacity sourceName
        quantizer
      bus := rfl
      inputs := rfl }
  obtain ⟨traces, ends⟩ := alike.trace steps
  obtain ⟨otherTraces, otherEnds⟩ := (Alike.refl other).trace otherSteps
  rw [sameSteps] at traces ends
  exact ⟨traces.trans otherTraces.symm, ends.view.trans otherEnds.view.symm⟩

/-- A button is bound in one host before a report presses it, and in the other host only after the
polls. Their polls bring different keys, and look alike otherwise. -/
theorem late_and_early_binding_look_alike :
    let raw : RawReport := #v[127, 127, 127, 127, 0x18, 0, 0, 0]
    let pad : DeviceInfo :=
      { id := ⟨1⟩, vendor := 0x046d, product := 0xc216, endpoints := [.interruptIn 1] }
    let handle : SessionHandle := { slot := 0, generation := 0 }
    let bound (letter : Char) : ReplayStep :=
      .call (.bind { control := .button 0, spec := .char letter })
    let early : List ReplayStep :=
      [.script (.plug ⟨1⟩), .call (.attach pad), .script (.pushReport ⟨1⟩ raw)]
    let late : List ReplayStep := [.call (.poll handle), .call (.poll handle)]
    let one : Host ReplayBus SourceList := create { capacity := 20 } .empty {} {}
    let other : Host ReplayBus SourceList := create { policy := .dropNewest } .empty {} {}
    ((one.replay early).poll handle).1.toOption ≠
        ((other.replay (bound 'u' :: early)).poll handle).1.toOption ∧
      one.trace (early ++ late ++ [bound 'v']) = other.trace (bound 'u' :: early ++ late) := by
  intro raw pad handle bound early late one other
  exact ⟨by decide +kernel,
    (mapping_and_policy_only_choose_keys { capacity := 20 } { policy := .dropNewest } rfl rfl rfl
      .empty .empty ({} : SourceList) (early ++ late ++ [bound 'v'])
      (bound 'u' :: early ++ late) rfl).1⟩

end Host

end Gamepad
