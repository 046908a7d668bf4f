import Gamepad.Proofs.RecordedRun
import Gamepad.Proofs.ReplayReads

/-!
Runs of a host over the replay bus, in which calls on the host and changes of the script of the
bus come in any order. Main statement: at every moment of such a run the reads in flight are those
that the sessions hold.
-/

namespace Gamepad

inductive BusStep
  | plug (device : DeviceId)
  | unplug (device : DeviceId)
  | pushReport (device : DeviceId) (raw : RawReport)
  | failNextSubmit (device : DeviceId)
  | failNextRead (device : DeviceId)

def ReplayBus.apply (bus : ReplayBus) : BusStep → ReplayBus
  | .plug device => bus.plug device
  | .unplug device => bus.unplug device
  | .pushReport device raw => bus.pushReport device raw
  | .failNextSubmit device => bus.failNextSubmit device
  | .failNextRead device => bus.failNextRead device

theorem ReplayBus.apply_frame (bus : ReplayBus) (step : BusStep) :
    (bus.apply step).inFlight = bus.inFlight ∧ (bus.apply step).nextSerial = bus.nextSerial ∧
      (bus.apply step).log = bus.log := by
  cases step <;> exact ⟨rfl, rfl, rfl⟩

inductive ReplayStep
  | call (made : HostCall)
  | script (change : BusStep)

namespace ReplayStep

variable {ι : Type}

def onHost : ReplayStep → HostStep ReplayBus ι
  | .call made => .call made
  | .script change => .outside fun (bus, inputs) => (bus.apply change, inputs)

theorem exists_script_of_outside (steps : List ReplayStep)
    (change : ReplayBus × ι → ReplayBus × ι) (member : .outside change ∈ steps.map onHost) :
    ∃ script, change = fun (bus, inputs) => (bus.apply script, inputs) := by
  obtain ⟨step, -, same⟩ := List.mem_map.mp member
  cases step with
  | call made => cases same
  | script made => exact ⟨made, (HostStep.outside.inj same).symm⟩

end ReplayStep

namespace Host

variable {ι : Type} [InputLayer ι]

def replay (host : Host ReplayBus ι) (steps : List ReplayStep) : Host ReplayBus ι :=
  host.run (steps.map ReplayStep.onHost)

def replayRecorded (host : Host (RecordedBus ReplayBus) ι) (steps : List ReplayStep) :
    Host (RecordedBus ReplayBus) ι :=
  host.run ((steps.map ReplayStep.onHost).map HostStep.recorded)

theorem replay_append (host : Host ReplayBus ι) (early late : List ReplayStep) :
    host.replay (early ++ late) = (host.replay early).replay late := by
  simp only [replay, run, List.map_append, List.foldl_append]

theorem replayRecorded_append (host : Host (RecordedBus ReplayBus) ι)
    (early late : List ReplayStep) :
    host.replayRecorded (early ++ late) = (host.replayRecorded early).replayRecorded late := by
  simp only [replayRecorded, run, List.map_append, List.foldl_append]

theorem viewBus_replayRecorded (host : Host (RecordedBus ReplayBus) ι) (steps : List ReplayStep) :
    (host.replayRecorded steps).viewBus RecordedBus.bus =
      (host.viewBus RecordedBus.bus).replay steps :=
  run_recorded _ host

theorem reads_held_replay (host : Host ReplayBus ι) (steps : List ReplayStep)
    (reads : ReadsHeld host.registry host.bus) :
    ReadsHeld (host.replay steps).registry (host.replay steps).bus := by
  refine kept_by_run (fun host => ReadsHeld host.registry host.bus) reads_held_move _ ?_ host reads
  intro change member host reads
  obtain ⟨script, rfl⟩ := ReplayStep.exists_script_of_outside steps change member
  obtain ⟨inFlight, serial, -⟩ := host.bus.apply_frame script
  exact reads.of_same (fun _ => rfl) inFlight serial

end Host

end Gamepad
