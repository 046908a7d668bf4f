import Gamepad.Console.Command
import Gamepad.Proofs.KeyStream

/-!
The console as its user may think of it. A slot holds nothing, or a device with the keys and the
reports that wait; there is no bus with reads in flight, no generation, no ring of slots and no
input layer.
-/

namespace Gamepad

structure PlainSession where
  device : DeviceId
  stream : KeyStream
  /-- The reports that no poll has taken in yet, oldest first. -/
  reports : List RawReport

namespace PlainSession

def opened (device : DeviceId) : PlainSession where
  device
  stream :=
    { previous := .idle
      keys := [] }
  reports := []

/-- Takes in the oldest waiting report and hands out the first key; without a report nothing
happens. -/
def poll (session : PlainSession) (settings : RegistrySettings) (keyMap : KeyMap) :
    KeyPoll × PlainSession :=
  match session.reports with
  | [] => (.pending, session)
  | raw :: reports =>
    let (result, stream) :=
      (session.stream.receive settings.policy keyMap settings.quantizer (.decode raw)).handOut
    (result, { session with stream, reports })

def pollLines (settings : RegistrySettings) (keyMap : KeyMap) :
    Nat → PlainSession → List String × PlainSession
  | 0, session => ([], session)
  | count + 1, session =>
    let (result, session) := session.poll settings keyMap
    let (lines, session) := pollLines settings keyMap count session
    (result.text :: lines, session)

end PlainSession

structure PlainConsole where
  keyMap : KeyMap
  /-- The number of the next device that is attached without one. -/
  nextDevice : Nat
  slots : List (Option PlainSession)

namespace PlainConsole

def create (settings : RegistrySettings) (keyMap : KeyMap) : PlainConsole where
  keyMap
  nextDevice := 1
  slots := .replicate (Registry.clampCapacity settings.capacity) none

def occupant? (console : PlainConsole) (slot : Nat) : Option PlainSession :=
  console.slots[slot]?.getD none

def fill (console : PlainConsole) (slot : Nat) (session? : Option PlainSession) : PlainConsole :=
  { console with slots := console.slots.set slot session? }

def holds (console : PlainConsole) (device : DeviceId) : Bool :=
  console.slots.any fun session? => session?.any fun session => session.device = device

/-- The lowest free slot, or the first reason against a device. -/
def slotFor (console : PlainConsole) (device : DeviceId) (vendor product : UInt16) :
    Except AttachError Nat :=
  if (Profile.ofIds? vendor product).isNone then .error (.unsupportedDevice vendor product)
  else if console.holds device then .error (.alreadyAttached device)
  else
    match console.slots.findIdx? Option.isNone with
    | none => .error (.registryFull console.slots.length)
    | some slot => .ok slot

/-- Gives a device the slot that is found for it. Its number is used up in any case. -/
def attach (settings : RegistrySettings) (console : PlainConsole) (device : DeviceId)
    (vendor product : UInt16) : Except ConsoleError (List String) × PlainConsole :=
  let nextDevice := max console.nextDevice (min (device.number.toNat + 1) (2 ^ 32 - 1))
  match console.slotFor device vendor product with
  | .error error => (.error (.attach error), { console with nextDevice })
  | .ok slot =>
    let name := s!"{settings.sourceName}{slot}"
    (.ok [s!"attached {device.text} as {name} (slot {slot})"],
      { console.fill slot (some (.opened device)) with nextDevice })

def detach (console : PlainConsole) (slot : Nat) :
    Except ConsoleError (List String) × PlainConsole :=
  match console.occupant? slot with
  | none => (.error (.emptySlot slot), console)
  | some _ => (.ok [s!"detached slot {slot}"], console.fill slot none)

def report (console : PlainConsole) (slot : Nat) (raw : RawReport) :
    Except ConsoleError (List String) × PlainConsole :=
  match console.occupant? slot with
  | none => (.error (.emptySlot slot), console)
  | some session =>
    (.ok [], console.fill slot (some { session with reports := session.reports ++ [raw] }))

def poll (settings : RegistrySettings) (console : PlainConsole) (slot count : Nat) :
    Except ConsoleError (List String) × PlainConsole :=
  match console.occupant? slot with
  | none => (.error (.emptySlot slot), console)
  | some session =>
    let (lines, session) := session.pollLines settings console.keyMap count
    (.ok lines, console.fill slot (some session))

def list (settings : RegistrySettings) (console : PlainConsole) : List String :=
  (List.range console.slots.length).filterMap fun slot =>
    (console.occupant? slot).map fun session =>
      let name := s!"{settings.sourceName}{slot}"
      s!"slot {slot} {name} {session.device.text} queued={session.stream.keys.length}"

def bind (console : PlainConsole) (binding : Binding) :
    Except ConsoleError (List String) × PlainConsole :=
  match binding.apply console.keyMap with
  | .error error => (.error (.binding error), console)
  | .ok (key, keyMap) =>
    (.ok [s!"mapped {binding.control.text} to {key.text}"], { console with keyMap })

def run (settings : RegistrySettings) (console : PlainConsole) :
    ConsoleCommand → Except ConsoleError (List String) × PlainConsole
  | .attach id? vendor product =>
    console.attach settings (id?.getD ⟨.ofNat console.nextDevice⟩) vendor product
  | .detach slot => console.detach slot
  | .report slot raw => console.report slot raw
  | .poll slot count => console.poll settings slot count
  | .list => (.ok (console.list settings), console)
  | .bind binding => console.bind binding

def execute (settings : RegistrySettings) (console : PlainConsole) (line : String) :
    Except ConsoleError (List String) × PlainConsole :=
  match ConsoleCommand.parse line with
  | .error error => (.error error, console)
  | .ok none => (.ok [], console)
  | .ok (some command) => console.run settings command

def executeAll (settings : RegistrySettings) :
    List String → PlainConsole → List (Except ConsoleError (List String)) × PlainConsole
  | [], console => ([], console)
  | line :: rest, console =>
    let (answer, console) := console.execute settings line
    let (answers, console) := executeAll settings rest console
    (answer :: answers, console)

end PlainConsole

end Gamepad
