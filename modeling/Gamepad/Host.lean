import Gamepad.Binding
import Gamepad.Registry

/-!
The host: a registry of sessions between a bus, from which reports come, and an input layer, which
is told the sources that it may poll.
-/

namespace Gamepad

class InputLayer (ι : Type) where
  register : String → SessionHandle → ι → ι
  unregister : SessionHandle → ι → ι

structure SourceList where
  sources : List (String × SessionHandle) := []
deriving DecidableEq, Repr

namespace SourceList

def contains (inputs : SourceList) (handle : SessionHandle) : Bool :=
  inputs.sources.any fun source => source.2 = handle

def find? (inputs : SourceList) (name : String) : Option SessionHandle :=
  inputs.sources.lookup name

instance : InputLayer SourceList where
  register name handle inputs := { sources := inputs.sources ++ [(name, handle)] }
  unregister handle inputs := { sources := inputs.sources.filter fun source => source.2 ≠ handle }

end SourceList

structure Host (β ι : Type) where
  registry : Registry
  bus : β
  inputs : ι
deriving DecidableEq

namespace Host

variable {β ι : Type}

/-- Opens a session for a device. A refused device leaves registry and input layer alone, and the
bus is called only when nothing else stands against the device. -/
def attach [Bus β] [InputLayer ι] (host : Host β ι) (device : DeviceInfo) :
    Except AttachError SessionHandle × Host β ι :=
  match host.registry.berthFor device with
  | .error error => (.error error, host)
  | .ok berth =>
    match Session.attach device.id berth.profile berth.endpoint host.registry.settings.policy
        host.bus with
    | (.error error, bus) => (.error (.submit error), { host with bus })
    | (.ok session, bus) =>
      let name := host.registry.nameOf berth.handle.slot
      (.ok berth.handle,
        { registry := host.registry.occupy berth.handle.slot { name, session }
          bus
          inputs := InputLayer.register name berth.handle host.inputs })

/-- Attaches a device as it is announced; a refusal is swallowed. -/
def announce [Bus β] [InputLayer ι] (host : Host β ι) (device : DeviceInfo) :
    Bool × Host β ι :=
  let (attached, host) := host.attach device
  (attached.isOk, host)

def detach [Bus β] [InputLayer ι] (host : Host β ι) (handle : SessionHandle) :
    Bool × Host β ι :=
  match host.registry.entry? handle with
  | none => (false, host)
  | some entry =>
    (true,
      { registry := host.registry.vacate handle.slot
        bus := (entry.session.detach host.bus).2
        inputs := InputLayer.unregister handle host.inputs })

def detachDevice [Bus β] [InputLayer ι] (host : Host β ι) (device : DeviceId) :
    Bool × Host β ι :=
  match host.registry.findDevice? device with
  | some handle => host.detach handle
  | none => (false, host)

def shutdown [Bus β] [InputLayer ι] (host : Host β ι) : Host β ι :=
  host.registry.handles.foldl (fun host handle => (host.detach handle).2) host

def poll [Bus β] (host : Host β ι) (handle : SessionHandle) :
    Except RegistryError KeyPoll × Host β ι :=
  match host.registry.entry? handle with
  | none => (.error (.staleHandle handle), host)
  | some entry =>
    let (result, session, bus) :=
      entry.session.poll host.registry.keyMap host.registry.settings.quantizer host.bus
    (.ok result,
      { host with
        registry := host.registry.occupy handle.slot { entry with session }
        bus })

/-- Changes the key map; the reports that arrive from now on are read with it. -/
def bind (host : Host β ι) (binding : Binding) : Except BindingError KeyCode × Host β ι :=
  match binding.apply host.registry.keyMap with
  | .error error => (.error error, host)
  | .ok (key, keyMap) => (.ok key, { host with registry := { host.registry with keyMap } })

end Host

end Gamepad
