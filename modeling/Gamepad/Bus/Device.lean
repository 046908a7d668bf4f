import Gamepad.Report
import Std.Data.ExtTreeMap

/-!
Devices on a bus and their endpoints, as an enumeration announces them.
-/

namespace Gamepad

structure DeviceId where
  number : UInt32
deriving DecidableEq, Repr

namespace DeviceId

instance : Ord DeviceId := ⟨compareOn number⟩

instance : Std.TransOrd DeviceId := inferInstanceAs (Std.TransCmp (compareOn number))

instance : Std.LawfulEqOrd DeviceId where
  eq_of_compare {first second} same := by
    have numbers : first.number = second.number := Std.LawfulEqOrd.eq_of_compare same
    cases first
    cases second
    simp_all

def text (device : DeviceId) : String := s!"dev#{device.number.toNat}"

end DeviceId

inductive TransferKind
  | control
  | isochronous
  | bulk
  | interrupt
deriving DecidableEq, Repr

structure Endpoint where
  /-- The number of the endpoint, with the top bit set where data comes from the device. -/
  address : UInt8
  /-- The two lowest bits say how data is transferred. -/
  attributes : UInt8
  maxPacketSize : UInt16
  interval : UInt8
deriving DecidableEq, Repr

namespace Endpoint

def interruptIn (number : UInt8) : Endpoint where
  address := 0x80 ||| (number &&& 0x0f)
  attributes := 3
  maxPacketSize := 8
  interval := 10

def isIn (endpoint : Endpoint) : Bool := endpoint.address &&& 0x80 ≠ 0

def kind (endpoint : Endpoint) : TransferKind :=
  match endpoint.attributes.toNat % 4 with
  | 0 => .control
  | 1 => .isochronous
  | 2 => .bulk
  | _ => .interrupt

def sendsReports (endpoint : Endpoint) : Bool := endpoint.isIn && endpoint.kind = .interrupt

end Endpoint

structure DeviceInfo where
  id : DeviceId
  vendor : UInt16
  product : UInt16
  endpoints : List Endpoint
deriving DecidableEq, Repr

def DeviceInfo.reportEndpoint? (device : DeviceInfo) : Option Endpoint :=
  device.endpoints.find? Endpoint.sendsReports

end Gamepad
