import Gamepad.Session

/-!
The slots in which sessions live. Each slot counts its generations, and a handle names a slot
together with the generation it was given for, so that a handle kept too long cannot reach a later
session.
-/

namespace Gamepad

structure SessionHandle where
  slot : Nat
  generation : UInt32
deriving DecidableEq, Repr

def SessionHandle.text (handle : SessionHandle) : String :=
  s!"{handle.slot}@{handle.generation.toNat}"

inductive AttachError
  | registryFull (capacity : Nat)
  | alreadyAttached (device : DeviceId)
  | unsupportedDevice (vendor product : UInt16)
  | noInterruptEndpoint (device : DeviceId)
  | submit (error : BusError)
deriving DecidableEq, Repr

def AttachError.message : AttachError → String
  | registryFull capacity => s!"registry full ({capacity} sessions)"
  | alreadyAttached device => s!"{device.text} is already attached"
  | unsupportedDevice vendor product =>
    let number (word : UInt16) := String.ofList (Text.hexDigits 4 word.toNat)
    s!"unsupported device {number vendor}:{number product}"
  | noInterruptEndpoint device => s!"{device.text} has no interrupt IN endpoint"
  | submit error => s!"initial read failed: {error.message}"

inductive RegistryError
  | staleHandle (handle : SessionHandle)
deriving DecidableEq, Repr

def RegistryError.message : RegistryError → String
  | staleHandle handle => s!"stale session handle {handle.text}"

structure RegistrySettings where
  capacity : Nat := 16
  /-- A session is named by these characters and the number of its slot. -/
  sourceName : String := "usb_gamepad"
  policy : OverflowPolicy := .dropOldest
  quantizer : Quantizer := {}
deriving DecidableEq, Repr

structure RegistryEntry where
  name : String
  session : Session
deriving DecidableEq, Repr

structure RegistrySlot where
  generation : UInt32 := 0
  entry : Option RegistryEntry := none
deriving DecidableEq, Repr

structure Registry where
  slots : List RegistrySlot
  keyMap : KeyMap
  settings : RegistrySettings
deriving DecidableEq, Repr

namespace Registry

def clampCapacity (capacity : Nat) : Nat := max 1 (min capacity 16)

def create (settings : RegistrySettings) (keyMap : KeyMap) : Registry :=
  let capacity := clampCapacity settings.capacity
  { slots := .replicate capacity {}
    keyMap
    settings := { settings with capacity } }

def capacity (registry : Registry) : Nat := registry.slots.length

def size (registry : Registry) : Nat := registry.slots.countP fun slot => slot.entry.isSome

def isEmpty (registry : Registry) : Bool := registry.size = 0

/-- What the handle stands for, as long as its generation lasts. -/
def entry? (registry : Registry) (handle : SessionHandle) : Option RegistryEntry :=
  match registry.slots[handle.slot]? with
  | some slot => if slot.generation = handle.generation then slot.entry else none
  | none => none

def session? (registry : Registry) (handle : SessionHandle) : Option Session :=
  (registry.entry? handle).map RegistryEntry.session

def name? (registry : Registry) (handle : SessionHandle) : Option String :=
  (registry.entry? handle).map RegistryEntry.name

def contains (registry : Registry) (handle : SessionHandle) : Bool :=
  (registry.entry? handle).isSome

def modifiers (registry : Registry) (handle : SessionHandle) : Except RegistryError UInt32 :=
  match registry.session? handle with
  | some session => .ok session.modifiers
  | none => .error (.staleHandle handle)

def handleAt? (registry : Registry) (number : Nat) : Option SessionHandle :=
  match registry.slots[number]? with
  | some slot => slot.entry.map fun _ => { slot := number, generation := slot.generation }
  | none => none

def handles (registry : Registry) : List SessionHandle :=
  (List.range registry.capacity).filterMap registry.handleAt?

def entries (registry : Registry) : List (SessionHandle × RegistryEntry) :=
  registry.handles.filterMap fun handle => (registry.entry? handle).map fun entry => (handle, entry)

def findDevice? (registry : Registry) (device : DeviceId) : Option SessionHandle :=
  registry.handles.find? fun handle =>
    (registry.session? handle).any fun session => session.device = device

/-- What an attachment needs that only the registry and the device decide. -/
structure Berth where
  profile : Profile
  endpoint : Endpoint
  handle : SessionHandle
deriving DecidableEq, Repr

def freeHandle? (registry : Registry) : Option SessionHandle :=
  (registry.slots.findIdx? fun slot => slot.entry.isNone).map fun number =>
    { slot := number
      generation := (registry.slots[number]?.map RegistrySlot.generation).getD 0 }

def berthFor (registry : Registry) (device : DeviceInfo) : Except AttachError Berth := do
  let some profile := Profile.ofIds? device.vendor device.product
    | throw (.unsupportedDevice device.vendor device.product)
  if (registry.findDevice? device.id).isSome then
    throw (.alreadyAttached device.id)
  let some endpoint := device.reportEndpoint?
    | throw (.noInterruptEndpoint device.id)
  let some handle := registry.freeHandle?
    | throw (.registryFull registry.capacity)
  return { profile, endpoint, handle }

def nameOf (registry : Registry) (slot : Nat) : String := s!"{registry.settings.sourceName}{slot}"

/-- Puts an entry into a slot and leaves the generation. -/
def occupy (registry : Registry) (number : Nat) (entry : RegistryEntry) : Registry :=
  { registry with
    slots := registry.slots.modify number fun slot => { slot with entry := some entry } }

/-- Empties a slot and starts its next generation. -/
def vacate (registry : Registry) (number : Nat) : Registry :=
  { registry with
    slots := registry.slots.modify number fun slot =>
      { generation := slot.generation + 1, entry := none } }

end Registry

end Gamepad
