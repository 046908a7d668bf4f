import Gamepad.Bus.Device

/-!
A bus that reads without blocking. A read is submitted, asked about until it has an answer, or
cancelled. A finished read hands its report over by value, and its transfer must not be asked
about again.
-/

namespace Gamepad

/-- Names one submitted read. Serial numbers are never used twice. -/
structure Transfer where
  serial : Nat
deriving DecidableEq, Repr

namespace Transfer

instance : Ord Transfer := ⟨compareOn serial⟩

instance : Std.TransOrd Transfer := inferInstanceAs (Std.TransCmp (compareOn serial))

instance : Std.LawfulEqOrd Transfer where
  eq_of_compare {first second} same := by
    have serials : first.serial = second.serial := Std.LawfulEqOrd.eq_of_compare same
    cases first
    cases second
    simp_all

def text (transfer : Transfer) : String := s!"xfer#{transfer.serial}"

end Transfer

inductive BusError
  | submitFailed (device : DeviceId) (reason : String)
  | noSuchDevice (device : DeviceId)
  | transferFailed (reason : String)
  | unknownTransfer (transfer : Transfer)
deriving DecidableEq, Repr

def BusError.message : BusError → String
  | .submitFailed device reason => s!"could not submit read on {device.text}: {reason}"
  | .noSuchDevice device => s!"no such device: {device.text}"
  | .transferFailed reason => s!"transfer failed: {reason}"
  | .unknownTransfer transfer => s!"unknown transfer: {transfer.text}"

inductive ReadStatus
  | pending
  | complete (raw : RawReport)
  | failed (error : BusError)
deriving DecidableEq, Repr

class Bus (β : Type) where
  submit : DeviceId → Endpoint → β → Except BusError Transfer × β
  check : Transfer → β → ReadStatus × β
  cancel : Transfer → β → β

end Gamepad
