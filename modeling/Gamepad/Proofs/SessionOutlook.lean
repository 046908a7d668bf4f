import Gamepad.Proofs.QuietPolls
import Gamepad.Proofs.ReplayRun

/-!
What one session can see of the replay bus: the script of its own device, and nothing else. A call
for one device leaves the scripts of the others, and what it answers hangs on the script of its
device only, up to the serial numbers of transfers. Main statement: two sessions that see the same
are polled alike.
-/

namespace Gamepad

def BusStep.device : BusStep → DeviceId
  | plug device => device
  | unplug device => device
  | pushReport device _ => device
  | failNextSubmit device => device
  | failNextRead device => device

namespace ReplayBus

theorem exists_rewrite (step : BusStep) :
    ∃ rewrite : Option DeviceScript → Option DeviceScript, ∀ (bus : ReplayBus) (other : DeviceId),
      (bus.apply step).devices[other]? =
        if step.device = other then rewrite bus.devices[step.device]? else bus.devices[other]? := by
  have amended : ∀ (change : DeviceScript → DeviceScript) (device : DeviceId),
      ∃ rewrite : Option DeviceScript → Option DeviceScript, ∀ (bus : ReplayBus) (other : DeviceId),
        (bus.amend device change).devices[other]? =
          if device = other then rewrite bus.devices[device]? else bus.devices[other]? := by
    intro change device
    exact ⟨fun script? => some (change (script?.getD {})), fun bus other =>
      bus.getElem?_amend device other change⟩
  cases step with
  | unplug device => exact ⟨fun _ => none, fun bus other => bus.getElem?_unplug device other⟩
  | plug device => exact amended _ device
  | pushReport device raw => exact amended _ device
  | failNextSubmit device => exact amended _ device
  | failNextRead device => exact amended _ device

/-! ## Other devices -/

variable (bus : ReplayBus)

theorem apply_other (step : BusStep) (other : DeviceId) (apart : step.device ≠ other) :
    (bus.apply step).devices[other]? = bus.devices[other]? := by
  obtain ⟨rewrite, rewritten⟩ := exists_rewrite step
  exact (rewritten bus other).trans (if_neg apart)

theorem submit_other (device other : DeviceId) (apart : device ≠ other) :
    (bus.submit device).2.devices[other]? = bus.devices[other]? := by
  unfold submit
  split
  next => rfl
  next script present =>
    split
    next => exact (bus.getElem?_setScript device other _).trans (if_neg apart)
    next => rfl

theorem check_of_flies (transfer : Transfer) (device : DeviceId)
    (flies : bus.inFlight[transfer]? = some device) :
    bus.check transfer = (bus.record (.check transfer)).answer transfer device := by
  have flying : (bus.record (.check transfer)).inFlight[transfer]? = some device := flies
  simp only [check, flying]

theorem check_other (transfer : Transfer) (device other : DeviceId)
    (flies : bus.inFlight[transfer]? = some device) (apart : device ≠ other) :
    (bus.check transfer).2.devices[other]? = bus.devices[other]? := by
  rw [bus.check_of_flies transfer device flies, answer]
  split
  next => rfl
  next script present =>
    split
    next => exact (getElem?_setScript _ device other _).trans (if_neg apart)
    next =>
      split
      next => rfl
      next => exact (getElem?_setScript _ device other _).trans (if_neg apart)

/-! ## Two buses with the same script for a device -/

theorem setScript_agrees (twin : ReplayBus) (device : DeviceId) (script : DeviceScript) :
    (bus.setScript device script).devices[device]? =
      (twin.setScript device script).devices[device]? := by
  rw [getElem?_setScript, getElem?_setScript, if_pos rfl, if_pos rfl]

variable {bus} {twin : ReplayBus} {device : DeviceId}

theorem apply_agrees (same : bus.devices[device]? = twin.devices[device]?) (step : BusStep) :
    (bus.apply step).devices[device]? = (twin.apply step).devices[device]? := by
  obtain ⟨rewrite, rewritten⟩ := exists_rewrite step
  rw [rewritten, rewritten]
  by_cases mine : step.device = device
  · rw [if_pos mine, if_pos mine, mine, same]
  · rw [if_neg mine, if_neg mine, same]

theorem submit_agrees (same : bus.devices[device]? = twin.devices[device]?) :
    (bus.submit device).1.toOption.isSome = (twin.submit device).1.toOption.isSome ∧
      (bus.submit device).2.devices[device]? = (twin.submit device).2.devices[device]? := by
  unfold submit
  rw [← same]
  cases present : bus.devices[device]? with
  | none => exact ⟨rfl, same⟩
  | some script =>
    dsimp only
    by_cases fails : 0 < script.failingSubmits
    · rw [if_pos fails, if_pos fails]
      exact ⟨rfl, setScript_agrees bus twin device _⟩
    · rw [if_neg fails, if_neg fails]
      exact ⟨rfl, same⟩

theorem answer_agrees (same : bus.devices[device]? = twin.devices[device]?)
    (transfer other : Transfer) :
    (bus.answer transfer device).1 = (twin.answer other device).1 ∧
      (bus.answer transfer device).2.devices[device]? =
        (twin.answer other device).2.devices[device]? := by
  unfold answer
  rw [← same]
  cases present : bus.devices[device]? with
  | none => exact ⟨rfl, same⟩
  | some script =>
    dsimp only
    by_cases fails : 0 < script.failingReads
    · rw [if_pos fails, if_pos fails]
      exact ⟨rfl, setScript_agrees bus twin device _⟩
    · rw [if_neg fails, if_neg fails]
      cases script.reports with
      | nil => exact ⟨rfl, same⟩
      | cons raw reports => exact ⟨rfl, setScript_agrees bus twin device _⟩

theorem check_agrees (same : bus.devices[device]? = twin.devices[device]?)
    (transfer other : Transfer) (flies : bus.inFlight[transfer]? = some device)
    (alsoFlies : twin.inFlight[other]? = some device) :
    (bus.check transfer).1 = (twin.check other).1 ∧
      (bus.check transfer).2.devices[device]? = (twin.check other).2.devices[device]? := by
  rw [bus.check_of_flies transfer device flies, twin.check_of_flies other device alsoFlies]
  have recorded : (bus.record (.check transfer)).devices[device]? =
      (twin.record (.check other)).devices[device]? := same
  exact answer_agrees recorded transfer other

end ReplayBus

/-- All that a session sees of itself, but for the number of its transfer, and of the bus. -/
structure Outlook where
  session : Session
  reads : Bool
  script? : Option DeviceScript

def Outlook.device (outlook : Outlook) : DeviceId := outlook.session.device

namespace Session

variable (session : Session) (keyMap : KeyMap) (quantizer : Quantizer)

theorem advance_other (bus : ReplayBus) (other : DeviceId) (apart : session.device ≠ other) :
    (session.advance bus).2.2.devices[other]? = bus.devices[other]? :=
  bus.submit_other session.device other apart

theorem poll_other (bus : ReplayBus) (other : DeviceId) (apart : session.device ≠ other)
    (flies : ∀ transfer, session.transfer = some transfer →
      bus.inFlight[transfer]? = some session.device) :
    (session.poll keyMap quantizer bus).2.2.devices[other]? = bus.devices[other]? := by
  cases held : session.transfer with
  | none =>
    simp only [poll, held]
    exact session.advance_other bus other apart
  | some transfer =>
    have frame := bus.check_other transfer session.device other (flies transfer held) apart
    rcases checked : Bus.check transfer bus with ⟨answer, later⟩
    change (Bus.check transfer bus).2.devices[other]? = bus.devices[other]? at frame
    rw [checked] at frame
    simp only [poll, held, checked]
    cases answer with
    | pending => exact frame
    | complete raw =>
      exact ((session.receive keyMap quantizer _).advance_other later other apart).trans frame
    | failed error => exact (session.advance_other later other apart).trans frame

theorem detach_devices (bus : ReplayBus) : (session.detach bus).2.devices = bus.devices := by
  unfold detach
  split <;> rfl

def outlook (bus : ReplayBus) : Outlook where
  session := { session with transfer := none }
  reads := session.transfer.isSome
  script? := bus.devices[session.device]?

theorem advance_agrees {bus twin : ReplayBus}
    (same : bus.devices[session.device]? = twin.devices[session.device]?) :
    (session.advance bus).2.1.outlook (session.advance bus).2.2 =
      (session.advance twin).2.1.outlook (session.advance twin).2.2 := by
  obtain ⟨accepted, scripts⟩ := ReplayBus.submit_agrees same
  exact (Outlook.mk.injEq ..).mpr ⟨rfl, accepted, scripts⟩

theorem eq_of_outlook {session twin : Session} {bus other : ReplayBus}
    (same : session.outlook bus = twin.outlook other) :
    twin = { session with transfer := twin.transfer } := by
  have sessions : { session with transfer := none } = ({ twin with transfer := none } : Session) :=
    congrArg Outlook.session same
  calc twin = { ({ twin with transfer := none } : Session) with transfer := twin.transfer } := rfl
    _ = { session with transfer := twin.transfer } := by rw [← sessions]

theorem apply_agrees {session twin : Session} {bus other : ReplayBus}
    (same : session.outlook bus = twin.outlook other) (step : BusStep) :
    session.outlook (bus.apply step) = twin.outlook (other.apply step) := by
  have device : session.device = twin.device := congrArg Outlook.device same
  have scripts : bus.devices[session.device]? = other.devices[twin.device]? :=
    congrArg Outlook.script? same
  rw [device] at scripts
  refine (Outlook.mk.injEq ..).mpr
    ⟨congrArg Outlook.session same, congrArg Outlook.reads same, ?_⟩
  rw [device]
  exact ReplayBus.apply_agrees scripts step

/-- Two sessions that see the same are polled alike, and see the same again. -/
theorem poll_agrees {session twin : Session} {bus other : ReplayBus}
    (same : session.outlook bus = twin.outlook other)
    (flies : ∀ transfer, session.transfer = some transfer →
      bus.inFlight[transfer]? = some session.device)
    (alsoFlies : ∀ transfer, twin.transfer = some transfer →
      other.inFlight[transfer]? = some twin.device) :
    (session.poll keyMap quantizer bus).1 = (twin.poll keyMap quantizer other).1 ∧
      (session.poll keyMap quantizer bus).2.1.outlook (session.poll keyMap quantizer bus).2.2 =
        (twin.poll keyMap quantizer other).2.1.outlook (twin.poll keyMap quantizer other).2.2 := by
  have alike := eq_of_outlook same
  have reads : session.transfer.isSome = twin.transfer.isSome := congrArg Outlook.reads same
  have scripts : bus.devices[session.device]? = other.devices[twin.device]? :=
    congrArg Outlook.script? same
  generalize twin.transfer = number at alike reads
  subst alike
  change bus.devices[session.device]? = other.devices[session.device]? at scripts
  cases held : session.transfer with
  | none =>
    rw [held] at reads
    cases number with
    | some number => cases reads
    | none =>
      simp only [poll, held]
      exact ⟨rfl, session.advance_agrees scripts⟩
  | some transfer =>
    cases number with
    | none =>
      rw [held] at reads
      cases reads
    | some number =>
      obtain ⟨answers, later⟩ := ReplayBus.check_agrees scripts transfer number (flies transfer held)
        (alsoFlies number rfl)
      change (Bus.check transfer bus).1 = (Bus.check number other).1 at answers
      change (Bus.check transfer bus).2.devices[session.device]? =
        (Bus.check number other).2.devices[session.device]? at later
      rcases checked : Bus.check transfer bus with ⟨answer, after⟩
      rcases alsoChecked : Bus.check number other with ⟨twinAnswer, twinAfter⟩
      rw [checked, alsoChecked] at answers later
      change answer = twinAnswer at answers
      subst answers
      simp only [poll, held, checked, alsoChecked]
      cases answer with
      | pending => exact ⟨rfl, (Outlook.mk.injEq ..).mpr ⟨rfl, reads, later⟩⟩
      | complete raw => exact ⟨rfl, (session.receive keyMap quantizer _).advance_agrees later⟩
      | failed error => exact ⟨rfl, session.advance_agrees later⟩

end Session

end Gamepad
