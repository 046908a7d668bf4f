import Gamepad.Proofs.PlainConsole
import Gamepad.Proofs.ReplayReads

/-!
Polls of a session over the replay bus when no failure is ordered for its device. The session and
the reports that wait on its device are seen together, as what a plain console keeps in a slot.
Main statement: a poll does to this what the plain console does.
-/

namespace Gamepad

namespace ReplayBus

theorem getElem?_amend (bus : ReplayBus) (device other : DeviceId)
    (change : DeviceScript → DeviceScript) :
    (bus.amend device change).devices[other]? =
      if device = other then some (change (bus.devices[device]?.getD {}))
      else bus.devices[other]? := by
  unfold amend
  rw [Std.ExtTreeMap.getElem?_alter]
  simp only [Std.LawfulEqOrd.compare_eq_iff_eq]

theorem getElem?_unplug (bus : ReplayBus) (device other : DeviceId) :
    (bus.unplug device).devices[other]? = if device = other then none else bus.devices[other]? := by
  unfold unplug
  rw [Std.ExtTreeMap.getElem?_erase]
  simp only [Std.LawfulEqOrd.compare_eq_iff_eq]

theorem getElem?_setScript (bus : ReplayBus) (device other : DeviceId) (script : DeviceScript) :
    (bus.setScript device script).devices[other]? =
      if device = other then some script else bus.devices[other]? := by
  unfold setScript
  rw [Std.ExtTreeMap.getElem?_insert]
  simp only [Std.LawfulEqOrd.compare_eq_iff_eq]

def reportsOf (bus : ReplayBus) (device : DeviceId) : List RawReport :=
  (bus.devices[device]?.getD {}).reports

/-- A device on the bus for which no failure is ordered. -/
def Serves (bus : ReplayBus) (device : DeviceId) : Prop :=
  bus.devices[device]? = some { reports := bus.reportsOf device }

theorem Serves.congr {bus later : ReplayBus} {device : DeviceId} (serves : bus.Serves device)
    (same : later.devices[device]? = bus.devices[device]?) : later.Serves device := by
  unfold Serves reportsOf
  rw [same]
  exact serves

theorem reportsOf_congr {bus later : ReplayBus} {device : DeviceId}
    (same : later.devices[device]? = bus.devices[device]?) :
    later.reportsOf device = bus.reportsOf device := by
  simp only [reportsOf, same]

theorem reportsOf_eq {bus : ReplayBus} {device : DeviceId} {reports : List RawReport}
    (script : bus.devices[device]? = some { reports }) : bus.reportsOf device = reports := by
  simp only [reportsOf, script, Option.getD_some]

theorem serves_of_script {bus : ReplayBus} {device : DeviceId} {reports : List RawReport}
    (script : bus.devices[device]? = some { reports }) : bus.Serves device := by
  rw [Serves, reportsOf_eq script, script]

theorem plug_of_serves (bus : ReplayBus) (device : DeviceId) (serves : bus.Serves device) :
    bus.plug device = bus := by
  have devices : (bus.plug device).devices = bus.devices := by
    apply Std.ExtTreeMap.ext_getElem?
    intro other
    rw [plug, getElem?_amend]
    split
    next same =>
      subst same
      unfold Serves at serves
      rw [serves]
      rfl
    next => rfl
  calc bus.plug device = { bus with devices := (bus.plug device).devices } := rfl
    _ = bus := by rw [devices]

theorem unplug_plug_of_absent (bus : ReplayBus) (device : DeviceId)
    (absent : bus.devices[device]? = none) : (bus.plug device).unplug device = bus := by
  have devices : ((bus.plug device).unplug device).devices = bus.devices := by
    apply Std.ExtTreeMap.ext_getElem?
    intro other
    rw [getElem?_unplug]
    split
    next same =>
      subst same
      exact absent.symm
    next apart => rw [plug, getElem?_amend, if_neg apart]
  calc (bus.plug device).unplug device =
        { bus with devices := ((bus.plug device).unplug device).devices } := rfl
    _ = bus := by rw [devices]

theorem plug_of_absent (bus : ReplayBus) (device : DeviceId)
    (absent : bus.devices[device]? = none) : (bus.plug device).devices[device]? = some {} := by
  rw [plug, getElem?_amend, if_pos rfl, absent]
  rfl

theorem submit_of_serves (bus : ReplayBus) (device : DeviceId) (serves : bus.Serves device) :
    (bus.submit device).1 = .ok ⟨bus.nextSerial⟩ ∧
      (bus.submit device).2.devices = bus.devices := by
  unfold Serves at serves
  unfold submit
  rw [serves]
  exact ⟨rfl, rfl⟩

theorem check_of_serves (bus : ReplayBus) (transfer : Transfer) (device : DeviceId)
    (flies : bus.inFlight[transfer]? = some device) (serves : bus.Serves device) :
    bus.check transfer =
      match bus.reportsOf device with
      | [] => (.pending, bus.record (.check transfer))
      | raw :: reports =>
        (.complete raw,
          ((bus.record (.check transfer)).setScript device { reports }).finish transfer) := by
  have flying : (bus.record (.check transfer)).inFlight[transfer]? = some device := flies
  have script : (bus.record (.check transfer)).devices[device]? =
      some { reports := bus.reportsOf device } := serves
  cases waiting : bus.reportsOf device with
  | nil =>
    rw [waiting] at script
    simp only [check, flying, answer, script, Nat.lt_irrefl, if_false]
  | cons raw reports =>
    rw [waiting] at script
    simp only [check, flying, answer, script, Nat.lt_irrefl, if_false]

end ReplayBus

namespace Session

/-- A session together with what waits on its device. -/
def plain (session : Session) (bus : ReplayBus) : PlainSession where
  device := session.device
  stream := session.stream
  reports := bus.reportsOf session.device

theorem plain_congr (session : Session) {bus later : ReplayBus}
    (same : later.devices[session.device]? = bus.devices[session.device]?) :
    session.plain later = session.plain bus := by
  simp only [plain, ReplayBus.reportsOf_congr same]

theorem plain_opened (device : DeviceId) (profile : Profile) (endpoint : Endpoint)
    (policy : OverflowPolicy) (transfer : Transfer) (bus : ReplayBus)
    (script : bus.devices[device]? = some {}) :
    (opened device profile endpoint policy transfer).plain bus = .opened device := by
  have idle : profile.idle = .idle := by
    cases profile
    rfl
  change PlainSession.mk device ⟨profile.idle, (KeyQueue.empty policy).toList⟩ (bus.reportsOf device) = _
  rw [KeyQueue.toList_empty, idle, ReplayBus.reportsOf_eq script]
  rfl

/-- A session whose reads come to an end, by and by. -/
structure Attended (session : Session) (policy : OverflowPolicy) (bus : ReplayBus) : Prop where
  policy : session.queue.policy = policy
  reading : session.transfer.isSome = true
  serves : bus.Serves session.device

theorem Attended.congr {session : Session} {policy : OverflowPolicy} {bus later : ReplayBus}
    (attended : session.Attended policy bus)
    (same : later.devices[session.device]? = bus.devices[session.device]?) :
    session.Attended policy later where
  policy := attended.policy
  reading := attended.reading
  serves := attended.serves.congr same

theorem advance_of_serves (session : Session) (bus : ReplayBus) (serves : bus.Serves session.device) :
    ∃ later, session.advance bus =
        (session.stream.handOut.1, session.resumed (.ok ⟨bus.nextSerial⟩), later) ∧
      later.devices = bus.devices := by
  obtain ⟨accepted, devices⟩ := bus.submit_of_serves session.device serves
  refine ⟨(bus.submit session.device).2, ?_, devices⟩
  rw [advance_eq, ← accepted]
  rfl

variable (session : Session) (keyMap : KeyMap) (quantizer : Quantizer) (bus : ReplayBus)
  {transfer : Transfer}

theorem poll_of_no_report (held : session.transfer = some transfer)
    (flies : bus.inFlight[transfer]? = some session.device) (serves : bus.Serves session.device)
    (waiting : bus.reportsOf session.device = []) :
    session.poll keyMap quantizer bus = (.pending, session, bus.record (.check transfer)) := by
  have checked := bus.check_of_serves transfer session.device flies serves
  rw [waiting] at checked
  change Bus.check transfer bus = (.pending, bus.record (.check transfer)) at checked
  simp only [poll, held, checked]

theorem poll_of_report (held : session.transfer = some transfer)
    (flies : bus.inFlight[transfer]? = some session.device) (serves : bus.Serves session.device)
    (raw : RawReport) (rest : List RawReport)
    (waiting : bus.reportsOf session.device = raw :: rest) :
    ∃ later,
      session.poll keyMap quantizer bus =
        ((session.receive keyMap quantizer (.decode raw)).stream.handOut.1,
          (session.receive keyMap quantizer (.decode raw)).resumed (.ok ⟨bus.nextSerial⟩), later) ∧
      later.devices[session.device]? = some { reports := rest } ∧
      ∀ other, session.device ≠ other → later.devices[other]? = bus.devices[other]? := by
  let scripted := (bus.record (.check transfer)).setScript session.device { reports := rest }
  have checked := bus.check_of_serves transfer session.device flies serves
  rw [waiting] at checked
  change Bus.check transfer bus = (.complete raw, scripted.finish transfer) at checked
  have decoded : session.profile.decode raw = .decode raw := by
    cases session.profile
    rfl
  have script : (scripted.finish transfer).devices[session.device]? = some { reports := rest } := by
    change scripted.devices[session.device]? = _
    rw [ReplayBus.getElem?_setScript, if_pos rfl]
  obtain ⟨later, advanced, devices⟩ := (session.receive keyMap quantizer (.decode raw)).advance_of_serves
    (scripted.finish transfer) (ReplayBus.serves_of_script script)
  refine ⟨later, ?_, ?_, ?_⟩
  · simp only [poll, held, checked, decoded]
    exact advanced
  · rw [devices, script]
  · intro other apart
    rw [devices]
    change scripted.devices[other]? = _
    rw [ReplayBus.getElem?_setScript, if_neg apart]
    rfl

/-- A poll does to a session and to what waits on its device what a plain console does, and it
leaves all other devices alone. -/
theorem poll_attended (settings : RegistrySettings)
    (attended : session.Attended settings.policy bus)
    (flies : ∀ transfer, session.transfer = some transfer →
      bus.inFlight[transfer]? = some session.device) :
    ∃ result after later, session.poll keyMap settings.quantizer bus = (result, after, later) ∧
      (result, after.plain later) = (session.plain bus).poll settings keyMap ∧
      after.Attended settings.policy later ∧
      ∀ other, session.device ≠ other → later.devices[other]? = bus.devices[other]? := by
  obtain ⟨transfer, held⟩ := Option.isSome_iff_exists.mp attended.reading
  cases waiting : bus.reportsOf session.device with
  | nil =>
    have polled := session.poll_of_no_report keyMap settings.quantizer bus held (flies transfer held)
      attended.serves waiting
    refine ⟨_, _, _, polled, ?_, attended.congr rfl, fun _ _ => rfl⟩
    simp only [PlainSession.poll, plain, waiting]
    rw [← waiting]
    rfl
  | cons raw rest =>
    obtain ⟨later, polled, script, others⟩ := session.poll_of_report keyMap
      settings.quantizer bus held (flies transfer held) attended.serves raw rest waiting
    have streamed := session.stream_receive keyMap settings.quantizer (.decode raw)
    rw [attended.policy] at streamed
    refine ⟨_, _, later, polled, ?_, ?_, others⟩
    · simp only [PlainSession.poll, plain, waiting]
      rw [stream_resumed, streamed]
      change (_, PlainSession.mk session.device _ (later.reportsOf session.device)) = _
      rw [ReplayBus.reportsOf_eq script]
    · exact
        { policy :=
            (KeyQueue.policy_pop _).trans ((session.policy_receive _ _ _).trans attended.policy)
          reading := rfl
          serves := ReplayBus.serves_of_script script }

end Session

end Gamepad
