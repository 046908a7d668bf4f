import Gamepad.Bus.Replay
import Gamepad.Proofs.HostRun
import Gamepad.Proofs.RecordedBus

/-!
Runs of a host over a recorded bus. Main statement: without the record such a run is the run over
the bus itself.
-/

namespace Gamepad

def HostStep.recorded {β ι : Type} : HostStep β ι → HostStep (RecordedBus β) ι
  | .call made => .call made
  | .outside change => .outside fun (recorded, inputs) =>
    ({ recorded with bus := (change (recorded.bus, inputs)).1 },
      (change (recorded.bus, inputs)).2)

namespace Host

variable {β γ ι : Type}

def viewBus (view : γ → β) (host : Host γ ι) : Host β ι where
  registry := host.registry
  bus := view host.bus
  inputs := host.inputs

variable [Bus β] [Bus γ] [InputLayer ι] {view : γ → β} (same : BusView view)
include same

theorem attach_view (host : Host γ ι) (device : DeviceInfo) :
    (host.viewBus view).attach device = Prod.map id (viewBus view) (host.attach device) := by
  simp only [attach, viewBus]
  cases host.registry.berthFor device with
  | error error => rfl
  | ok berth =>
    simp only [Session.attach_view same]
    rcases Session.attach device.id berth.profile berth.endpoint host.registry.settings.policy
      host.bus with ⟨attached, later⟩
    cases attached <;> rfl

theorem detach_view (host : Host γ ι) (handle : SessionHandle) :
    (host.viewBus view).detach handle = Prod.map id (viewBus view) (host.detach handle) := by
  simp only [detach, viewBus]
  cases host.registry.entry? handle with
  | none => rfl
  | some entry =>
    simp only [Session.detach_view same]
    rfl

omit [InputLayer ι] in
theorem poll_view (host : Host γ ι) (handle : SessionHandle) :
    (host.viewBus view).poll handle = Prod.map id (viewBus view) (host.poll handle) := by
  simp only [poll, viewBus]
  cases host.registry.entry? handle with
  | none => rfl
  | some entry =>
    simp only [Session.poll_view same]
    rfl

theorem settle_view (host : Host γ ι) (device : DeviceInfo) (berth : Registry.Berth)
    (transfer : Transfer) :
    (host.viewBus view).settle device berth transfer =
      (host.settle device berth transfer).viewBus view := by
  simp only [settle, viewBus, same.submit]
  rfl

theorem release_view (host : Host γ ι) (handle : SessionHandle) (entry : RegistryEntry) :
    (host.viewBus view).release handle entry = (host.release handle entry).viewBus view := by
  simp only [release, viewBus, Session.detach_view same]
  rfl

omit [InputLayer ι] in
theorem advance_view (host : Host γ ι) (handle : SessionHandle) (entry : RegistryEntry) :
    (host.viewBus view).advance handle entry = (host.advance handle entry).viewBus view := by
  simp only [advance, viewBus, Session.poll_view same]
  rfl

theorem move_view (before after : Host γ ι) (move : Move before after) :
    Move (before.viewBus view) (after.viewBus view) := by
  cases move with
  | bound keyMap => exact .bound keyMap
  | refused device endpoint error refused =>
    have submitted := same.submit device endpoint before.bus
    have moved : Move (before.viewBus view) _ :=
      .refused device endpoint error ((congrArg Prod.fst submitted).trans refused)
    rwa [viewBus, submitted] at moved
  | settled device berth found transfer accepted =>
    have submitted := same.submit device.id berth.endpoint before.bus
    rw [← settle_view same]
    refine .settled device berth ?_ transfer ?_
    · exact found
    · exact (congrArg Prod.fst submitted).trans accepted
  | released handle entry live =>
    rw [← release_view same]
    exact .released handle entry live
  | advanced handle entry live =>
    rw [← advance_view same]
    exact .advanced handle entry live

theorem call_view (host : Host γ ι) (call : HostCall) :
    (host.viewBus view).call call = (host.call call).viewBus view := by
  cases call with
  | attach device => exact congrArg Prod.snd (attach_view same host device)
  | announce device => exact congrArg Prod.snd (attach_view same host device)
  | detach handle => exact congrArg Prod.snd (detach_view same host handle)
  | detachDevice device =>
    simp only [call, detachDevice, viewBus]
    cases host.registry.findDevice? device with
    | none => rfl
    | some handle => exact congrArg Prod.snd (detach_view same host handle)
  | shutdown =>
    have handles : (host.viewBus view).registry.handles = host.registry.handles := rfl
    simp only [call, shutdown, handles]
    induction host.registry.handles generalizing host with
    | nil => rfl
    | cons handle rest ih =>
      simp only [List.foldl_cons, detach_view same]
      exact ih _ rfl
  | poll handle => exact congrArg Prod.snd (poll_view same host handle)
  | bind binding =>
    simp only [call, bind, viewBus]
    cases binding.apply host.registry.keyMap <;> rfl

end Host

theorem Host.run_recorded {β ι : Type} [Bus β] [InputLayer ι] (steps : List (HostStep β ι))
    (host : Host (RecordedBus β) ι) :
    (host.run (steps.map HostStep.recorded)).viewBus RecordedBus.bus =
      (host.viewBus RecordedBus.bus).run steps := by
  induction steps generalizing host with
  | nil => rfl
  | cons step rest ih =>
    have first : (host.step step.recorded).viewBus RecordedBus.bus =
        (host.viewBus RecordedBus.bus).step step := by
      cases step with
      | call call => exact (call_view RecordedBus.busView host call).symm
      | outside change => rfl
    simp only [run, List.map_cons, List.foldl_cons] at ih ⊢
    rw [ih, first]

end Gamepad
