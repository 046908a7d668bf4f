import Gamepad.Bus

/-!
A bus in memory. Each device plays back the reports queued for it, one for each finished read, and
failures can be ordered in advance. Every call is logged, so that the order of calls can be
examined.
-/

namespace Gamepad

/-- What a device on the bus is going to do. Its counts have no bound here; words of 64 bits hold
them as long as fewer than 2^64 failures are ordered. -/
structure DeviceScript where
  reports : List RawReport := []
  /-- How many of the next submissions fail. -/
  failingSubmits : Nat := 0
  /-- How many of the next reads fail. -/
  failingReads : Nat := 0
deriving DecidableEq, Repr

inductive BusCall
  | submit (device : DeviceId) (transfer : Transfer)
  | rejected (device : DeviceId)
  | check (transfer : Transfer)
  | cancel (transfer : Transfer)
deriving DecidableEq, Repr

def BusCall.text : BusCall → String
  | submit device transfer => s!"submit {device.text} {transfer.text}"
  | rejected device => s!"rejected {device.text}"
  | check transfer => s!"check {transfer.text}"
  | cancel transfer => s!"cancel {transfer.text}"

structure ReplayBus where
  devices : Std.ExtTreeMap DeviceId DeviceScript := ∅
  inFlight : Std.ExtTreeMap Transfer DeviceId := ∅
  /-- A number without a bound; a word of 64 bits holds it as long as fewer than 2^64 reads start. -/
  nextSerial : Nat := 0
  log : Array BusCall := #[]
deriving DecidableEq

namespace ReplayBus

/-- Changes the script of a device, which is plugged in first if it is absent. -/
def amend (bus : ReplayBus) (device : DeviceId) (change : DeviceScript → DeviceScript) :
    ReplayBus :=
  { bus with devices := bus.devices.alter device fun script? => some (change (script?.getD {})) }

def plug (bus : ReplayBus) (device : DeviceId) : ReplayBus := bus.amend device id

/-- Removes a device and its script; its reads fail when they are next asked about. -/
def unplug (bus : ReplayBus) (device : DeviceId) : ReplayBus :=
  { bus with devices := bus.devices.erase device }

def isPlugged (bus : ReplayBus) (device : DeviceId) : Bool := bus.devices.contains device

def pushReport (bus : ReplayBus) (device : DeviceId) (raw : RawReport) : ReplayBus :=
  bus.amend device fun script => { script with reports := script.reports ++ [raw] }

def failNextSubmit (bus : ReplayBus) (device : DeviceId) : ReplayBus :=
  bus.amend device fun script => { script with failingSubmits := script.failingSubmits + 1 }

def failNextRead (bus : ReplayBus) (device : DeviceId) : ReplayBus :=
  bus.amend device fun script => { script with failingReads := script.failingReads + 1 }

def record (bus : ReplayBus) (call : BusCall) : ReplayBus := { bus with log := bus.log.push call }

def forgetLog (bus : ReplayBus) : ReplayBus := { bus with log := #[] }

def setScript (bus : ReplayBus) (device : DeviceId) (script : DeviceScript) : ReplayBus :=
  { bus with devices := bus.devices.insert device script }

def finish (bus : ReplayBus) (transfer : Transfer) : ReplayBus :=
  { bus with inFlight := bus.inFlight.erase transfer }

def submit (bus : ReplayBus) (device : DeviceId) : Except BusError Transfer × ReplayBus :=
  match bus.devices[device]? with
  | none => (.error (.noSuchDevice device), bus.record (.rejected device))
  | some script =>
    if 0 < script.failingSubmits then
      let script := { script with failingSubmits := script.failingSubmits - 1 }
      (.error (.submitFailed device "injected failure"),
        (bus.setScript device script).record (.rejected device))
    else
      let transfer : Transfer := ⟨bus.nextSerial⟩
      let started :=
        { bus with
          inFlight := bus.inFlight.insert transfer device
          nextSerial := bus.nextSerial + 1 }
      (.ok transfer, started.record (.submit device transfer))

def answer (bus : ReplayBus) (transfer : Transfer) (device : DeviceId) : ReadStatus × ReplayBus :=
  match bus.devices[device]? with
  | none => (.failed (.transferFailed s!"{device.text} was unplugged"), bus.finish transfer)
  | some script =>
    if 0 < script.failingReads then
      let script := { script with failingReads := script.failingReads - 1 }
      (.failed (.transferFailed "injected failure"), (bus.setScript device script).finish transfer)
    else
      match script.reports with
      | [] => (.pending, bus)
      | raw :: reports =>
        (.complete raw, (bus.setScript device { script with reports }).finish transfer)

def check (bus : ReplayBus) (transfer : Transfer) : ReadStatus × ReplayBus :=
  let bus := bus.record (.check transfer)
  match bus.inFlight[transfer]? with
  | none => (.failed (.unknownTransfer transfer), bus)
  | some device => bus.answer transfer device

def cancel (bus : ReplayBus) (transfer : Transfer) : ReplayBus :=
  (bus.record (.cancel transfer)).finish transfer

instance : Bus ReplayBus where
  submit device _ bus := bus.submit device
  check transfer bus := bus.check transfer
  cancel transfer bus := bus.cancel transfer

end ReplayBus

end Gamepad
