import Gamepad.Bus.Replay
import Gamepad.Console.Command
import Gamepad.Host

/-!
A console that drives a host over the replay bus, one line after another. The devices on its bus
are those that its lines attached and have not detached.
-/

namespace Gamepad

namespace Host

variable {ι : Type}

def plug (host : Host ReplayBus ι) (id : DeviceId) : Host ReplayBus ι :=
  { host with bus := host.bus.plug id }

def unplug (host : Host ReplayBus ι) (id : DeviceId) : Host ReplayBus ι :=
  { host with bus := host.bus.unplug id }

def pushReport (host : Host ReplayBus ι) (id : DeviceId) (raw : RawReport) : Host ReplayBus ι :=
  { host with bus := host.bus.pushReport id raw }

end Host

structure Console where
  host : Host ReplayBus SourceList
  /-- The id of the next device that is attached without one. -/
  nextDevice : UInt32
deriving DecidableEq

namespace Console

def create (registry : Registry) : Console where
  host :=
    { registry
      bus := {}
      inputs := {} }
  nextDevice := 1

/-- The number after this one, or this one if it is the last. -/
def successor (number : UInt32) : UInt32 :=
  if number = 0xffffffff then number else number + 1

def handleAt (console : Console) (slot : Nat) : Except ConsoleError SessionHandle :=
  match console.host.registry.handleAt? slot with
  | some handle => .ok handle
  | none => .error (.emptySlot slot)

/-- Plugs a device in and attaches it. A refused device is unplugged again unless a session has
it, but its id stays used up. -/
def attach (console : Console) (id : DeviceId) (vendor product : UInt16) :
    Except ConsoleError (List String) × Console :=
  let nextDevice := max console.nextDevice (successor id.number)
  let device : DeviceInfo :=
    { id
      vendor
      product
      endpoints := [.interruptIn 1] }
  match (console.host.plug id).attach device with
  | (.ok handle, host) =>
    let name := (host.registry.name? handle).getD ""
    (.ok [s!"attached {id.text} as {name} (slot {handle.slot})"], { host, nextDevice })
  | (.error error, host) =>
    let host := if (host.registry.findDevice? id).isSome then host else host.unplug id
    (.error (.attach error), { host, nextDevice })

def detach (console : Console) (slot : Nat) : Except ConsoleError (List String) × Console :=
  match console.handleAt slot with
  | .error error => (.error error, console)
  | .ok handle =>
    let session? := console.host.registry.session? handle
    let host := (console.host.detach handle).2
    let host :=
      match session? with
      | some session => host.unplug session.device
      | none => host
    (.ok [s!"detached slot {slot}"], { console with host })

def report (console : Console) (slot : Nat) (raw : RawReport) :
    Except ConsoleError (List String) × Console :=
  match console.handleAt slot with
  | .error error => (.error error, console)
  | .ok handle =>
    match console.host.registry.session? handle with
    | none => (.error (.emptySlot slot), console)
    | some session =>
      (.ok [], { console with host := console.host.pushReport session.device raw })

def pollLines (handle : SessionHandle) :
    Nat → Host ReplayBus SourceList → Except RegistryError (List String) × Host ReplayBus SourceList
  | 0, host => (.ok [], host)
  | count + 1, host =>
    match host.poll handle with
    | (.error error, host) => (.error error, host)
    | (.ok result, host) =>
      let (lines, host) := pollLines handle count host
      (lines.map (result.text :: ·), host)

def poll (console : Console) (slot count : Nat) : Except ConsoleError (List String) × Console :=
  match console.handleAt slot with
  | .error error => (.error error, console)
  | .ok handle =>
    let (lines, host) := pollLines handle count console.host
    (lines.mapError .registry, { console with host })

def list (console : Console) : List String :=
  console.host.registry.entries.map fun (handle, entry) =>
    let session := entry.session
    s!"slot {handle.slot} {entry.name} {session.device.text} queued={session.queue.size}"

def bind (console : Console) (binding : Binding) : Except ConsoleError (List String) × Console :=
  let (bound, host) := console.host.bind binding
  let lines := bound.map fun key => [s!"mapped {binding.control.text} to {key.text}"]
  (lines.mapError .binding, { console with host })

def run (console : Console) : ConsoleCommand → Except ConsoleError (List String) × Console
  | .attach id? vendor product => console.attach (id?.getD ⟨console.nextDevice⟩) vendor product
  | .detach slot => console.detach slot
  | .report slot raw => console.report slot raw
  | .poll slot count => console.poll slot count
  | .list => (.ok console.list, console)
  | .bind binding => console.bind binding

def execute (console : Console) (line : String) : Except ConsoleError (List String) × Console :=
  match ConsoleCommand.parse line with
  | .error error => (.error error, console)
  | .ok none => (.ok [], console)
  | .ok (some command) => console.run command

def shutdown (console : Console) : Console := { console with host := console.host.shutdown }

end Console

end Gamepad
