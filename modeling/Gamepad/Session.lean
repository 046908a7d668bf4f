import Gamepad.Bus
import Gamepad.KeyQueue
import Gamepad.Profile
import Gamepad.Transition

/-!
One attached device. A session keeps a read in flight, turns each report into keys by comparing it
with the report before, and hands out one key for each poll.
-/

namespace Gamepad

structure Session where
  device : DeviceId
  profile : Profile
  endpoint : Endpoint
  /-- The read in flight; there is none after a read that could not be submitted. -/
  transfer : Option Transfer
  previous : Report
  queue : KeyQueue 32
deriving DecidableEq, Repr

inductive KeyPoll
  /-- The read is still in flight, and nothing happened. -/
  | pending
  | noKey
  | key (code : KeyCode)
deriving DecidableEq, Repr

def KeyPoll.text : KeyPoll → String
  | pending => "pending"
  | noKey => "no-key"
  | key code => s!"key {code.text}"

namespace Session

variable {β : Type} [Bus β]

/-- Submits the first read. The first report will be compared with a pad at rest. -/
def attach (device : DeviceId) (profile : Profile) (endpoint : Endpoint) (policy : OverflowPolicy)
    (bus : β) : Except BusError Session × β :=
  let (submitted, bus) := Bus.submit device endpoint bus
  (submitted.map fun transfer =>
    { device
      profile
      endpoint
      transfer := some transfer
      previous := profile.idle
      queue := .empty policy }, bus)

def receive (session : Session) (keyMap : KeyMap) (quantizer : Quantizer) (current : Report) :
    Session :=
  { session with
    previous := current
    queue := session.queue.pushAll (Transition.keys quantizer keyMap session.previous current) }

/-- Submits the next read and hands out the oldest key. A failed submission leaves the session
without a read until a later poll. -/
def advance (session : Session) (bus : β) : KeyPoll × Session × β :=
  let (submitted, bus) := Bus.submit session.device session.endpoint bus
  let (key?, queue) := session.queue.pop
  let result :=
    match key? with
    | some key => .key key
    | none => .noKey
  (result, { session with transfer := submitted.toOption, queue }, bus)

/-- One poll. While the read is in flight nothing happens; a failed read brings no report, but the
keys that wait are handed out all the same. -/
def poll (session : Session) (keyMap : KeyMap) (quantizer : Quantizer) (bus : β) :
    KeyPoll × Session × β :=
  match session.transfer with
  | none => session.advance bus
  | some transfer =>
    match Bus.check transfer bus with
    | (.pending, bus) => (.pending, session, bus)
    | (.complete raw, bus) =>
      (session.receive keyMap quantizer (session.profile.decode raw)).advance bus
    | (.failed _, bus) => session.advance bus

/-- Cancels the read in flight, so that no report can reach the session afterwards. -/
def detach (session : Session) (bus : β) : Session × β :=
  match session.transfer with
  | none => (session, bus)
  | some transfer => ({ session with transfer := none }, Bus.cancel transfer bus)

def modifiers (_ : Session) : UInt32 := 0

end Session

end Gamepad
