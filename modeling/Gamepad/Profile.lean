import Gamepad.Report

/-!
The device families that can be read. The vendor and product numbers of a device pick its family,
and the family knows how to read a report and what a pad at rest sends.
-/

namespace Gamepad

inductive Profile
  | rumblePad
deriving DecidableEq, Repr

namespace Profile

def ofIds? (vendor product : UInt16) : Option Profile :=
  if vendor = 0x046d ∧ product ∈ [0xc216, 0xc218] then some rumblePad else none

def name : Profile → String
  | rumblePad => "rumble pad"

def decode : Profile → RawReport → Report
  | rumblePad => Report.decode

/-- What the first report of a session is compared with. -/
def idle : Profile → Report
  | rumblePad => Report.idle

end Profile

end Gamepad
