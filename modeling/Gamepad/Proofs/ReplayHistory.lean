import Gamepad.Proofs.SessionOutlook
import Gamepad.Proofs.TransferDiscipline
import Mathlib.Data.List.DropRight
import Mathlib.Data.List.Nodup

/-!
The replay bus in the hands of anybody: its calls and the changes of its scripts come in any order,
with any devices and any transfers. Main statement: every transfer is given out once and ends once,
and for each device what was handed out and what still waits are together what was pushed, and so
for the failures that were ordered. The counts of the bus fit into words of 64 bits in every run
that is not too long.
-/

namespace Gamepad

/-! ## Uses of the bus -/

inductive ReplayUse
  | script (change : BusStep)
  | submit (device : DeviceId) (endpoint : Endpoint)
  | check (transfer : Transfer)
  | cancel (transfer : Transfer)

inductive ReplayEvent
  | script (change : BusStep)
  | call (event : BusEvent)

namespace ReplayEvent

def issued? : ReplayEvent → Option (Transfer × DeviceId)
  | .call (.submit device _ (.ok transfer)) => some (transfer, device)
  | _ => none

/-- The transfer is cancelled, or answered for good. -/
def ends (transfer : Transfer) : ReplayEvent → Bool
  | .call event => event.ends transfer
  | .script _ => false

/-- The transfer about which a check was answered by its device. -/
def answered? : ReplayEvent → Option Transfer
  | .call (.check transfer (.complete _)) => some transfer
  | .call (.check transfer (.failed (.transferFailed _))) => some transfer
  | _ => none

def unplugs (device : DeviceId) : ReplayEvent → Bool
  | .script (.unplug other) => other = device
  | _ => false

@[simp]
def pushed? (device : DeviceId) : ReplayEvent → Option RawReport
  | .script (.pushReport other raw) => if other = device then some raw else none
  | _ => none

/-- The report that a check hands out, where the transfer is one of the device. -/
@[simp]
def handedOut? (owner : Transfer → Option DeviceId) (device : DeviceId) :
    ReplayEvent → Option RawReport
  | .call (.check transfer (.complete raw)) => if owner transfer = some device then some raw else none
  | _ => none

@[simp]
def ordersSubmitFailure (device : DeviceId) : ReplayEvent → Bool
  | .script (.failNextSubmit other) => other = device
  | _ => false

@[simp]
def failsSubmit (device : DeviceId) : ReplayEvent → Bool
  | .call (.submit other _ (.error (.submitFailed _ _))) => other = device
  | _ => false

@[simp]
def ordersReadFailure (device : DeviceId) : ReplayEvent → Bool
  | .script (.failNextRead other) => other = device
  | _ => false

@[simp]
def failsRead (owner : Transfer → Option DeviceId) (device : DeviceId) : ReplayEvent → Bool
  | .call (.check transfer (.failed (.transferFailed reason))) =>
    owner transfer = some device ∧ reason = "injected failure"
  | _ => false

theorem ends_of_issued (event : ReplayEvent) (issued : event.issued?.isSome = true)
    (transfer : Transfer) : event.ends transfer = false := by
  unfold issued? at issued
  split at issued
  next => rfl
  next => cases issued

theorem eq_of_answered (asked transfer : Transfer) (answer : ReadStatus)
    (answered : (call (.check asked answer)).answered? = some transfer) : asked = transfer := by
  cases answer with
  | pending => cases answered
  | complete raw => exact Option.some.inj answered
  | failed error =>
    cases error with
    | transferFailed reason => exact Option.some.inj answered
    | _ => cases answered

/-- Whether a transfer is in flight, and for which device, after the event. -/
def flight (transfer : Transfer) (before : Option DeviceId) (event : ReplayEvent) :
    Option DeviceId :=
  match event.issued? with
  | some (given, device) => if given = transfer then some device else before
  | none => if event.ends transfer then none else before

theorem foldl_flight (transfer : Transfer) (events : List ReplayEvent)
    (old : ∀ event ∈ events, ∀ device, event.issued? ≠ some (transfer, device))
    (now : Option DeviceId) :
    events.foldl (flight transfer) now =
      if events.any (ends transfer) then none else now := by
  induction events generalizing now with
  | nil => rfl
  | cons event rest ih =>
    rw [List.foldl_cons, ih (fun other member => old other (List.mem_cons_of_mem _ member)),
      List.any_cons]
    have here := old event List.mem_cons_self
    unfold flight
    cases issued : event.issued? with
    | some issue =>
      have apart : issue.1 ≠ transfer := fun same => here issue.2 (same ▸ issued)
      have goesOn := event.ends_of_issued (by rw [issued]; rfl) transfer
      simp only [if_neg apart, goesOn, Bool.false_or]
    | none => cases event.ends transfer <;> simp

section Owners

variable {owner other : Transfer → Option DeviceId} {event : ReplayEvent}
  (same : ∀ transfer, event.answered? = some transfer → owner transfer = other transfer)
include same

theorem handedOut?_congr (device : DeviceId) :
    event.handedOut? owner device = event.handedOut? other device := by
  unfold handedOut?
  split
  next transfer raw => rw [same transfer rfl]
  next => rfl

theorem failsRead_congr (device : DeviceId) :
    event.failsRead owner device = event.failsRead other device := by
  unfold failsRead
  split
  next transfer reason => rw [same transfer rfl]
  next => rfl

end Owners

end ReplayEvent

namespace ReplayBus

def use (bus : ReplayBus) : ReplayUse → ReplayEvent × ReplayBus
  | .script change => (.script change, bus.apply change)
  | .submit device endpoint =>
    let (answer, bus) := bus.submit device
    (.call (.submit device endpoint answer), bus)
  | .check transfer =>
    let (answer, bus) := bus.check transfer
    (.call (.check transfer answer), bus)
  | .cancel transfer => (.call (.cancel transfer), bus.cancel transfer)

/-! ## One use -/

variable (bus : ReplayBus)

theorem check_of_unknown (transfer : Transfer) (unknown : bus.inFlight[transfer]? = none) :
    bus.check transfer =
      (.failed (.unknownTransfer transfer), { bus with log := bus.log.push (.check transfer) }) := by
  have recorded : (bus.record (.check transfer)).inFlight[transfer]? = none := unknown
  simp only [check, recorded]
  rfl

theorem cancel_of_unknown (transfer : Transfer) (unknown : bus.inFlight[transfer]? = none) :
    bus.cancel transfer = { bus with log := bus.log.push (.cancel transfer) } := by
  have erased : bus.inFlight.erase transfer = bus.inFlight := by
    apply Std.ExtTreeMap.ext_getElem?
    intro other
    rw [getElem?_inFlight_erase]
    split
    next same => rw [← same, unknown]
    next => rfl
  calc bus.cancel transfer
      = { bus with
          inFlight := bus.inFlight.erase transfer
          log := bus.log.push (.cancel transfer) } := rfl
    _ = { bus with log := bus.log.push (.cancel transfer) } := by rw [erased]

/-- A transfer is in flight from the submission that gives it out to the event that ends it. -/
theorem inFlight_use (use : ReplayUse) (transfer : Transfer) :
    (bus.use use).2.inFlight[transfer]? =
      (bus.use use).1.flight transfer bus.inFlight[transfer]? := by
  cases use with
  | script change => exact congrArg (·[transfer]?) (bus.apply_frame change).1
  | submit device endpoint =>
    rcases bus.submit_cases device with ⟨error, answer, same, -⟩ | ⟨answer, inserted, -⟩
    · simp only [use, answer, same]
      rfl
    · simp only [use, answer, inserted, getElem?_inFlight_insert]
      rfl
  | check asked =>
    cases flies : bus.inFlight[asked]? with
    | none =>
      simp only [use, bus.check_of_unknown asked flies, ReplayEvent.flight, ReplayEvent.issued?,
        ReplayEvent.ends, BusEvent.ends, decide_eq_true_eq]
      split
      next same => rw [← same, flies]
      next => rfl
    | some device =>
      obtain ⟨inFlight, -, -, known⟩ := bus.check_of_inFlight asked device flies
      simp only [use, inFlight]
      cases answer : (bus.check asked).1 with
      | pending => rfl
      | complete raw =>
        simp only [if_neg (nofun : ReadStatus.complete raw ≠ .pending), getElem?_inFlight_erase]
        simp only [ReplayEvent.flight, ReplayEvent.issued?, ReplayEvent.ends, BusEvent.ends,
          decide_eq_true_eq]
      | failed error =>
        simp only [if_neg (nofun : ReadStatus.failed error ≠ .pending), getElem?_inFlight_erase]
        simp only [ReplayEvent.flight, ReplayEvent.issued?, ReplayEvent.ends, BusEvent.ends,
          decide_eq_true_eq]
  | cancel asked =>
    have erased : (bus.cancel asked).inFlight = bus.inFlight.erase asked := rfl
    simp only [use, erased, getElem?_inFlight_erase]
    simp only [ReplayEvent.flight, ReplayEvent.issued?, ReplayEvent.ends, BusEvent.ends,
      decide_eq_true_eq]

theorem issued_use (use : ReplayUse) :
    ((bus.use use).1.issued? = none ∧ (bus.use use).2.nextSerial = bus.nextSerial) ∨
      ∃ device, (bus.use use).1.issued? = some (⟨bus.nextSerial⟩, device) ∧
        (bus.use use).2.nextSerial = bus.nextSerial + 1 := by
  cases use with
  | script change => exact .inl ⟨rfl, (bus.apply_frame change).2.1⟩
  | cancel asked => exact .inl ⟨rfl, rfl⟩
  | check asked =>
    refine .inl ⟨rfl, ?_⟩
    cases flies : bus.inFlight[asked]? with
    | none => simp only [use, bus.check_of_unknown asked flies]
    | some device => exact (bus.check_of_inFlight asked device flies).2.1
  | submit device endpoint =>
    rcases bus.submit_cases device with ⟨error, answer, -, serial, -⟩ | ⟨answer, -, serial, -⟩
    · refine .inl ⟨?_, serial⟩
      simp only [use, answer]
      rfl
    · refine .inr ⟨device, ?_, serial⟩
      simp only [use, answer]
      rfl

theorem flies_of_answered (use : ReplayUse) (transfer : Transfer)
    (answered : (bus.use use).1.answered? = some transfer) :
    ∃ device, bus.inFlight[transfer]? = some device := by
  cases use with
  | script change => cases answered
  | submit device endpoint => cases answered
  | cancel asked => cases answered
  | check asked =>
    cases flies : bus.inFlight[asked]? with
    | none =>
      simp only [use, bus.check_of_unknown asked flies] at answered
      cases answered
    | some device =>
      exact ⟨device, ReplayEvent.eq_of_answered asked transfer _ answered ▸ flies⟩

def scriptOf (device : DeviceId) : DeviceScript := bus.devices[device]?.getD {}

end ReplayBus

/-- What one event changes for a device that it does not unplug: a report is handed out from the
front of the queue or pushed to its end, and a failure is ordered or happens. -/
structure Booked (owner : Transfer → Option DeviceId) (device : DeviceId) (event : ReplayEvent)
    (before after : DeviceScript) : Prop where
  reports : (event.handedOut? owner device).toList ++ after.reports =
    before.reports ++ (event.pushed? device).toList
  submits : [event].countP (ReplayEvent.failsSubmit device) + after.failingSubmits =
    before.failingSubmits + [event].countP (ReplayEvent.ordersSubmitFailure device)
  reads : [event].countP (ReplayEvent.failsRead owner device) + after.failingReads =
    before.failingReads + [event].countP (ReplayEvent.ordersReadFailure device)

namespace ReplayBus

variable (bus : ReplayBus) (device : DeviceId)

theorem scriptOf_congr {bus later : ReplayBus} {device : DeviceId}
    (same : later.devices[device]? = bus.devices[device]?) :
    later.scriptOf device = bus.scriptOf device := by
  rw [scriptOf, same, scriptOf]

theorem scriptOf_amend (other : DeviceId) (change : DeviceScript → DeviceScript) :
    (bus.amend other change).scriptOf device =
      if other = device then change (bus.scriptOf device) else bus.scriptOf device := by
  rw [scriptOf, getElem?_amend]
  split
  next same => rw [same]; rfl
  next => rfl

theorem booked_script (owner : Transfer → Option DeviceId) (change : BusStep)
    (stays : (ReplayEvent.script change).unplugs device = false) :
    Booked owner device (.script change) (bus.scriptOf device) ((bus.apply change).scriptOf device) := by
  by_cases mine : change.device = device
  · subst mine
    cases change with
    | unplug other => exact absurd rfl (of_decide_eq_false stays)
    | plug other =>
      rw [apply, plug, BusStep.device, scriptOf_amend, if_pos rfl]
      constructor <;> simp
    | pushReport other raw =>
      rw [apply, pushReport, BusStep.device, scriptOf_amend, if_pos rfl]
      constructor <;> simp
    | failNextSubmit other =>
      rw [apply, failNextSubmit, BusStep.device, scriptOf_amend, if_pos rfl]
      constructor <;> simp
    | failNextRead other =>
      rw [apply, failNextRead, BusStep.device, scriptOf_amend, if_pos rfl]
      constructor <;> simp
  · rw [scriptOf_congr (bus.apply_other change device mine)]
    cases change <;> constructor <;> simp_all [BusStep.device]

theorem booked_submit (owner : Transfer → Option DeviceId) (other : DeviceId) (endpoint : Endpoint) :
    Booked owner device (.call (.submit other endpoint (bus.submit other).1)) (bus.scriptOf device)
      ((bus.submit other).2.scriptOf device) := by
  by_cases mine : other = device
  · subst mine
    unfold submit
    cases present : bus.devices[other]? with
    | none => constructor <;> simp [scriptOf, present, record]
    | some script =>
      dsimp only
      by_cases fails : 0 < script.failingSubmits
      · rw [if_pos fails]
        have left : (bus.setScript other _).devices[other]? = some _ :=
          (bus.getElem?_setScript other other
            { script with failingSubmits := script.failingSubmits - 1 }).trans (if_pos rfl)
        constructor
        · simp [scriptOf, present, record, left]
        · simp [scriptOf, present, record, left]
          omega
        · simp [scriptOf, present, record, left]
      · rw [if_neg fails]
        constructor <;> simp [scriptOf, present, record]
  · rw [scriptOf_congr (bus.submit_other other device mine)]
    rcases (bus.submit other).1 with error | transfer
    · cases error <;> constructor <;> simp [mine]
    · constructor <;> simp

theorem unplugged_ne_injected : s!"{device.text} was unplugged" ≠ "injected failure" := by
  intro same
  have first := congrArg (fun text : String => text.toList.head?) same
  change ("dev#" ++ device.number.toNat.repr ++ " was unplugged").toList.head? = some 'i' at first
  rw [String.toList_append, String.toList_append] at first
  cases first

theorem booked_answer (transfer : Transfer) (owner : Transfer → Option DeviceId)
    (owned : owner transfer = some device) :
    Booked owner device (.call (.check transfer (bus.answer transfer device).1))
      (bus.scriptOf device) ((bus.answer transfer device).2.scriptOf device) := by
  unfold answer
  cases present : bus.devices[device]? with
  | none => constructor <;> simp [scriptOf, present, finish, unplugged_ne_injected]
  | some script =>
    have written : ∀ changed : DeviceScript,
        ((bus.setScript device changed).finish transfer).scriptOf device = changed := fun changed => by
      have inside := (bus.getElem?_setScript device device changed).trans (if_pos rfl)
      exact congrArg (·.getD {}) inside
    have before : bus.scriptOf device = script := by rw [scriptOf, present, Option.getD_some]
    dsimp only
    rw [before]
    by_cases fails : 0 < script.failingReads
    · rw [if_pos fails]
      simp only [written]
      constructor
      · simp
      · simp
      · simp [owned]
        omega
    · rw [if_neg fails]
      cases waiting : script.reports with
      | nil =>
        simp only [before]
        constructor <;> simp
      | cons raw rest =>
        simp only [written]
        constructor <;> simp [owned, waiting]

theorem booked_check (transfer : Transfer) :
    Booked (fun transfer => bus.inFlight[transfer]?) device
      (.call (.check transfer (bus.check transfer).1)) (bus.scriptOf device)
      ((bus.check transfer).2.scriptOf device) := by
  cases flies : bus.inFlight[transfer]? with
  | none =>
    have same : (bus.check transfer).2.scriptOf device = bus.scriptOf device := by
      rw [bus.check_of_unknown transfer flies]
      rfl
    rw [same, bus.check_of_unknown transfer flies]
    constructor <;> simp
  | some other =>
    by_cases mine : other = device
    · subst mine
      rw [bus.check_of_flies transfer other flies]
      exact booked_answer (bus.record (.check transfer)) other transfer _ flies
    · rw [scriptOf_congr (bus.check_other transfer other device flies mine)]
      rcases (bus.check transfer).1 with _ | raw | error
      · constructor <;> simp
      · constructor <;> simp [flies, mine]
      · cases error <;> constructor <;> simp [flies, mine]

theorem booked_use (use : ReplayUse) (stays : (bus.use use).1.unplugs device = false) :
    Booked (fun transfer => bus.inFlight[transfer]?) device (bus.use use).1 (bus.scriptOf device)
      ((bus.use use).2.scriptOf device) := by
  cases use with
  | script change => exact bus.booked_script device _ change stays
  | submit other endpoint => exact bus.booked_submit device _ other endpoint
  | check transfer => exact bus.booked_check device transfer
  | cancel transfer =>
    have same : (bus.cancel transfer).scriptOf device = bus.scriptOf device := rfl
    simp only [use, same]
    constructor <;> simp

theorem scriptOf_of_unplugs (use : ReplayUse) (goes : (bus.use use).1.unplugs device = true) :
    (bus.use use).2.scriptOf device = {} := by
  cases use with
  | script change =>
    cases change with
    | unplug other =>
      have same : other = device := of_decide_eq_true goes
      rw [scriptOf]
      exact congrArg (·.getD {}) ((bus.getElem?_unplug other device).trans (if_pos same))
    | _ => cases goes
  | _ => cases goes

end ReplayBus

/-! ## Runs -/

structure ReplayHistory where
  bus : ReplayBus := {}
  events : List ReplayEvent := []

namespace ReplayHistory

def use (history : ReplayHistory) (use : ReplayUse) : ReplayHistory where
  bus := (history.bus.use use).2
  events := history.events ++ [(history.bus.use use).1]

def ofUses (uses : List ReplayUse) : ReplayHistory := uses.foldl use {}

def issues (history : ReplayHistory) : List (Transfer × DeviceId) :=
  history.events.filterMap ReplayEvent.issued?

def owner? (history : ReplayHistory) (transfer : Transfer) : Option DeviceId :=
  history.issues.lookup transfer

/-- What happened since the device was last unplugged; before it is plugged in again, none of it
is about its reports or its failures. -/
def stay (history : ReplayHistory) (device : DeviceId) : List ReplayEvent :=
  history.events.rtakeWhile fun event => !event.unplugs device

/-- The books of a device: what was handed out and what waits is what was pushed, and the failures
that happened and those to come are those that were ordered. -/
structure Balanced (history : ReplayHistory) (device : DeviceId) : Prop where
  reports : (history.stay device).filterMap (ReplayEvent.handedOut? history.owner? device) ++
      (history.bus.scriptOf device).reports =
    (history.stay device).filterMap (ReplayEvent.pushed? device)
  submits : (history.stay device).countP (ReplayEvent.failsSubmit device) +
      (history.bus.scriptOf device).failingSubmits =
    (history.stay device).countP (ReplayEvent.ordersSubmitFailure device)
  reads : (history.stay device).countP (ReplayEvent.failsRead history.owner? device) +
      (history.bus.scriptOf device).failingReads =
    (history.stay device).countP (ReplayEvent.ordersReadFailure device)

structure Recounted (history : ReplayHistory) : Prop where
  issued : history.issues.map Prod.fst = (List.range history.bus.nextSerial).map Transfer.mk
  flight : ∀ transfer, history.bus.inFlight[transfer]? =
    history.events.foldl (ReplayEvent.flight transfer) none
  owned : ∀ transfer device, history.bus.inFlight[transfer]? = some device →
    history.owner? transfer = some device
  answered : ∀ event ∈ history.events, ∀ transfer, event.answered? = some transfer →
    ∃ device, history.owner? transfer = some device
  balanced : ∀ device, history.Balanced device

variable {history : ReplayHistory}

theorem filterMap_singleton {α : Type} (event : ReplayEvent) (part? : ReplayEvent → Option α) :
    [event].filterMap part? = (part? event).toList := by
  rw [List.filterMap_eq_flatMap_toList, List.flatMap_singleton]

theorem issues_use (use : ReplayUse) :
    (history.use use).issues = history.issues ++ ((history.bus.use use).1.issued?).toList := by
  rw [issues, ReplayHistory.use, List.filterMap_append, filterMap_singleton, issues]

theorem owner?_use {transfer : Transfer} {device : DeviceId} (use : ReplayUse)
    (owned : history.owner? transfer = some device) :
    (history.use use).owner? transfer = some device := by
  rw [owner?, issues_use, List.lookup_append]
  unfold owner? at owned
  rw [owned, Option.some_or]

theorem Recounted.owner?_next (recounted : history.Recounted) :
    history.owner? ⟨history.bus.nextSerial⟩ = none := by
  cases found : history.owner? ⟨history.bus.nextSerial⟩ with
  | none => rfl
  | some device =>
    obtain ⟨before, after, parts, -⟩ := List.lookup_eq_some_iff.mp found
    have member : (⟨history.bus.nextSerial⟩ : Transfer) ∈ history.issues.map Prod.fst := by
      simp [parts]
    rw [recounted.issued, List.mem_map] at member
    obtain ⟨serial, below, same⟩ := member
    cases same
    exact absurd (List.mem_range.mp below) (Nat.lt_irrefl _)

theorem Recounted.issued_use (recounted : history.Recounted) (use : ReplayUse) :
    (history.use use).issues.map Prod.fst =
      (List.range (history.use use).bus.nextSerial).map Transfer.mk := by
  rw [issues_use, List.map_append, recounted.issued]
  rcases history.bus.issued_use use with ⟨nothing, serial⟩ | ⟨device, issued, serial⟩
  · have same : (history.use use).bus.nextSerial = history.bus.nextSerial := serial
    rw [nothing, same]
    exact List.append_nil _
  · have next : (history.use use).bus.nextSerial = history.bus.nextSerial + 1 := serial
    rw [issued, next, List.range_succ, List.map_append]
    rfl

theorem Recounted.owned_use (recounted : history.Recounted) (use : ReplayUse) (transfer : Transfer)
    (device : DeviceId) (flies : (history.use use).bus.inFlight[transfer]? = some device) :
    (history.use use).owner? transfer = some device := by
  have later := history.bus.inFlight_use use transfer
  change (history.bus.use use).2.inFlight[transfer]? = some device at flies
  rw [flies, ReplayEvent.flight] at later
  rcases history.bus.issued_use use with ⟨nothing, -⟩ | ⟨owner, issued, -⟩
  · simp only [nothing] at later
    split at later
    next => cases later
    next => exact owner?_use use (recounted.owned transfer device later.symm)
  · simp only [issued] at later
    split at later
    next same =>
      cases later
      have new := recounted.owner?_next
      unfold owner? at new
      rw [owner?, issues_use, List.lookup_append, issued, ← same, new, Option.none_or]
      simp
    next => exact owner?_use use (recounted.owned transfer device later.symm)

theorem Recounted.answered_use (recounted : history.Recounted) (use : ReplayUse)
    (event : ReplayEvent) (member : event ∈ (history.use use).events) (transfer : Transfer)
    (answered : event.answered? = some transfer) :
    ∃ device, (history.use use).owner? transfer = some device := by
  rcases List.mem_append.mp member with before | last
  · obtain ⟨device, owned⟩ := recounted.answered event before transfer answered
    exact ⟨device, owner?_use use owned⟩
  · rw [List.mem_singleton.mp last] at answered
    obtain ⟨device, flies⟩ := history.bus.flies_of_answered use transfer answered
    exact ⟨device, owner?_use use (recounted.owned transfer device flies)⟩

theorem Recounted.owner?_of_answered (recounted : history.Recounted) (use : ReplayUse)
    (event : ReplayEvent) (member : event ∈ history.events) (transfer : Transfer)
    (answered : event.answered? = some transfer) :
    (history.use use).owner? transfer = history.owner? transfer := by
  obtain ⟨device, owned⟩ := recounted.answered event member transfer answered
  rw [owner?_use use owned, owned]

theorem Recounted.owner?_of_inFlight (recounted : history.Recounted) (use : ReplayUse)
    (transfer : Transfer) (answered : (history.bus.use use).1.answered? = some transfer) :
    (history.use use).owner? transfer = history.bus.inFlight[transfer]? := by
  obtain ⟨device, flies⟩ := history.bus.flies_of_answered use transfer answered
  rw [owner?_use use (recounted.owned transfer device flies), flies]

theorem Recounted.balanced_use (recounted : history.Recounted) (use : ReplayUse)
    (device : DeviceId) : (history.use use).Balanced device := by
  cases goes : (history.bus.use use).1.unplugs device with
  | true =>
    have stay : (history.use use).stay device = [] := by
      rw [stay, ReplayHistory.use, List.rtakeWhile_concat_neg]
      simp [goes]
    have script : (history.use use).bus.scriptOf device = {} :=
      history.bus.scriptOf_of_unplugs device use goes
    constructor <;> rw [stay, script] <;> rfl
  | false =>
    have stay : (history.use use).stay device = history.stay device ++ [(history.bus.use use).1] := by
      rw [stay, ReplayHistory.use, List.rtakeWhile_concat_pos, stay]
      simp [goes]
    have booked := history.bus.booked_use device use goes
    have script : (history.use use).bus.scriptOf device = (history.bus.use use).2.scriptOf device := rfl
    have inside : ∀ event ∈ history.stay device, event ∈ history.events := fun event member =>
      (List.rtakeWhile_suffix _ _).mem member
    have balanced := recounted.balanced device
    have handed : (history.stay device).filterMap
          (ReplayEvent.handedOut? (history.use use).owner? device) =
        (history.stay device).filterMap (ReplayEvent.handedOut? history.owner? device) :=
      List.filterMap_congr fun event member => ReplayEvent.handedOut?_congr
        (recounted.owner?_of_answered use event (inside event member)) device
    have failed : (history.stay device).countP
          (ReplayEvent.failsRead (history.use use).owner? device) =
        (history.stay device).countP (ReplayEvent.failsRead history.owner? device) :=
      List.countP_congr fun event member => by
        rw [ReplayEvent.failsRead_congr
          (recounted.owner?_of_answered use event (inside event member)) device]
    have lastHanded : (history.bus.use use).1.handedOut? (history.use use).owner? device =
        (history.bus.use use).1.handedOut? (fun transfer => history.bus.inFlight[transfer]?) device :=
      ReplayEvent.handedOut?_congr (recounted.owner?_of_inFlight use) device
    have lastFailed : [(history.bus.use use).1].countP
          (ReplayEvent.failsRead (history.use use).owner? device) =
        [(history.bus.use use).1].countP
          (ReplayEvent.failsRead (fun transfer => history.bus.inFlight[transfer]?) device) :=
      List.countP_congr fun event member => by
        rw [ReplayEvent.failsRead_congr
          (List.mem_singleton.mp member ▸ recounted.owner?_of_inFlight use) device]
    have reports := booked.reports
    have submits := booked.submits
    have reads := booked.reads
    constructor
    · rw [stay, script, List.filterMap_append, List.filterMap_append, filterMap_singleton,
        filterMap_singleton, handed, ← balanced.reports, List.append_assoc, List.append_assoc,
        lastHanded, reports]
    · rw [stay, script, List.countP_append, List.countP_append, ← balanced.submits]
      omega
    · rw [stay, script, List.countP_append, List.countP_append, failed, ← balanced.reads, lastFailed]
      omega

theorem recounted_start : Recounted {} where
  issued := rfl
  flight transfer := by
    change (∅ : Std.ExtTreeMap Transfer DeviceId)[transfer]? = none
    exact Std.ExtTreeMap.getElem?_empty
  owned transfer device flies := by
    change (∅ : Std.ExtTreeMap Transfer DeviceId)[transfer]? = some device at flies
    rw [Std.ExtTreeMap.getElem?_empty] at flies
    cases flies
  answered event member := by cases member
  balanced device := by
    have script : ({} : ReplayBus).scriptOf device = {} := by
      change (∅ : Std.ExtTreeMap DeviceId DeviceScript)[device]?.getD ({} : DeviceScript) = {}
      rw [Std.ExtTreeMap.getElem?_empty, Option.getD_none]
    constructor <;> rw [script] <;> rfl

theorem Recounted.use (recounted : history.Recounted) (use : ReplayUse) :
    (history.use use).Recounted where
  issued := recounted.issued_use use
  flight transfer := by
    rw [ReplayHistory.use, List.foldl_append, ← recounted.flight transfer]
    exact history.bus.inFlight_use use transfer
  owned := recounted.owned_use use
  answered := recounted.answered_use use
  balanced := recounted.balanced_use use

theorem recounted_ofUses (uses : List ReplayUse) : (ofUses uses).Recounted := by
  have all : ∀ (uses : List ReplayUse) (history : ReplayHistory), history.Recounted →
      (uses.foldl ReplayHistory.use history).Recounted := by
    intro uses
    induction uses with
    | nil => exact fun _ recounted => recounted
    | cons first rest ih => exact fun history recounted => ih _ (recounted.use first)
  exact all uses {} recounted_start

theorem Recounted.nodup_issues (recounted : history.Recounted) :
    (history.issues.map Prod.fst).Nodup := by
  rw [recounted.issued]
  exact List.nodup_range.map fun _ _ => Transfer.mk.inj

theorem Recounted.old_after (recounted : history.Recounted) {before after : List ReplayEvent}
    {device : DeviceId} {endpoint : Endpoint} {transfer : Transfer}
    (split : history.events = before ++ .call (.submit device endpoint (.ok transfer)) :: after) :
    ∀ event ∈ after, ∀ owner, event.issued? ≠ some (transfer, owner) := by
  intro event member owner issued
  have once := recounted.nodup_issues
  rw [issues, split, List.filterMap_append, List.map_append] at once
  have later := List.Nodup.of_append_right once
  have again : transfer ∈ (after.filterMap ReplayEvent.issued?).map Prod.fst :=
    List.mem_map.mpr ⟨(transfer, owner), List.mem_filterMap.mpr ⟨event, member, issued⟩, rfl⟩
  exact (List.nodup_cons.mp later).1 again

/-- A transfer that was given out flies until the first event that ends it. -/
theorem Recounted.inFlight_of_split (recounted : history.Recounted)
    {before after : List ReplayEvent} {device : DeviceId} {endpoint : Endpoint}
    {transfer : Transfer}
    (split : history.events = before ++ .call (.submit device endpoint (.ok transfer)) :: after) :
    history.bus.inFlight[transfer]? =
      if after.any (ReplayEvent.ends transfer) then none else some device := by
  rw [recounted.flight, split, List.foldl_append, List.foldl_cons,
    ReplayEvent.foldl_flight transfer after (recounted.old_after split)]
  simp [ReplayEvent.flight, ReplayEvent.issued?]

theorem length_events_ofUses (uses : List ReplayUse) :
    (ofUses uses).events.length = uses.length := by
  have all : ∀ (uses : List ReplayUse) (history : ReplayHistory),
      (uses.foldl ReplayHistory.use history).events.length =
        history.events.length + uses.length := by
    intro uses
    induction uses with
    | nil => exact fun _ => rfl
    | cons first rest ih =>
      intro history
      rw [List.foldl_cons, ih, ReplayHistory.use, List.length_append, List.length_singleton,
        List.length_cons]
      omega
  exact (all uses {}).trans (Nat.zero_add _)

theorem Recounted.nextSerial_le (recounted : history.Recounted) :
    history.bus.nextSerial ≤ history.events.length := by
  have lengths := congrArg List.length recounted.issued
  rw [List.length_map, List.length_map, List.length_range] at lengths
  rw [← lengths]
  exact List.length_filterMap_le ..

theorem Balanced.failing_le {device : DeviceId} (balanced : history.Balanced device) :
    (history.bus.scriptOf device).failingSubmits ≤ history.events.length ∧
      (history.bus.scriptOf device).failingReads ≤ history.events.length := by
  have inside : (history.stay device).length ≤ history.events.length :=
    (List.rtakeWhile_suffix _ _).length_le
  have submits : (history.stay device).countP (ReplayEvent.ordersSubmitFailure device) ≤
      (history.stay device).length := List.countP_le_length
  have reads : (history.stay device).countP (ReplayEvent.ordersReadFailure device) ≤
      (history.stay device).length := List.countP_le_length
  have submitted := balanced.submits
  have read := balanced.reads
  omega

/-- Words of 64 bits can keep all counts of a bus as long as there are fewer than `2 ^ 64` uses. -/
theorem toNat_counts_ofUses (uses : List ReplayUse) (few : uses.length < 2 ^ 64) :
    let bus := (ofUses uses).bus
    (UInt64.ofNat bus.nextSerial).toNat = bus.nextSerial ∧ ∀ device,
      (UInt64.ofNat (bus.scriptOf device).failingSubmits).toNat =
        (bus.scriptOf device).failingSubmits ∧
      (UInt64.ofNat (bus.scriptOf device).failingReads).toNat =
        (bus.scriptOf device).failingReads := by
  have recounted := recounted_ofUses uses
  have fits : ∀ count, count ≤ (ofUses uses).events.length →
      (UInt64.ofNat count).toNat = count := by
    intro count most
    rw [length_events_ofUses] at most
    exact UInt64.toNat_ofNat_of_lt (Nat.lt_of_le_of_lt most few)
  refine ⟨fits _ recounted.nextSerial_le, fun device => ?_⟩
  obtain ⟨submits, reads⟩ := (recounted.balanced device).failing_le
  exact ⟨fits _ submits, fits _ reads⟩

/-- Every transfer is given out once and ends once, and every device hands out what was pushed and
fails what it was told to fail. -/
structure ExactlyOnce (history : ReplayHistory) : Prop where
  once : (history.issues.map Prod.fst).Nodup
  flies : ∀ before device endpoint after transfer,
    history.events = before ++ .call (.submit device endpoint (.ok transfer)) :: after →
    (∀ event ∈ after, event.ends transfer = false) →
    history.bus.inFlight[transfer]? = some device
  landed : ∀ before device endpoint after transfer,
    history.events = before ++ .call (.submit device endpoint (.ok transfer)) :: after →
    (∃ event ∈ after, event.ends transfer = true) →
    history.bus.inFlight[transfer]? = none
  given : ∀ transfer device, history.bus.inFlight[transfer]? = some device →
    ∃ endpoint, .call (.submit device endpoint (.ok transfer)) ∈ history.events
  unknown : ∀ transfer, history.bus.inFlight[transfer]? = none →
    history.bus.check transfer =
      (.failed (.unknownTransfer transfer),
        { history.bus with log := history.bus.log.push (.check transfer) }) ∧
    history.bus.cancel transfer =
      { history.bus with log := history.bus.log.push (.cancel transfer) }
  delivered : ∀ device,
    (history.stay device).filterMap (ReplayEvent.handedOut? history.owner? device) ++
        history.bus.reportsOf device =
      (history.stay device).filterMap (ReplayEvent.pushed? device)
  waiting : ∀ transfer device, (∀ raw, (history.bus.check transfer).1 ≠ .complete raw) →
    (history.bus.check transfer).2.reportsOf device = history.bus.reportsOf device
  absent : ∀ transfer device, history.bus.inFlight[transfer]? = some device →
    history.bus.isPlugged device = false →
    (history.bus.check transfer).1 =
      .failed (.transferFailed s!"{device.text} was unplugged") ∧
    (history.bus.check transfer).2.inFlight[transfer]? = none
  submits : ∀ device, history.bus.isPlugged device = true →
    ((∃ error, (history.bus.submit device).1 = .error error) ↔
      (history.stay device).countP (ReplayEvent.failsSubmit device) <
        (history.stay device).countP (ReplayEvent.ordersSubmitFailure device))
  reads : ∀ transfer device, history.bus.inFlight[transfer]? = some device →
    history.bus.isPlugged device = true →
    ((∃ error, (history.bus.check transfer).1 = .failed error) ↔
      (history.stay device).countP (ReplayEvent.failsRead history.owner? device) <
        (history.stay device).countP (ReplayEvent.ordersReadFailure device))

theorem Recounted.given (recounted : history.Recounted) (transfer : Transfer) (device : DeviceId)
    (flies : history.bus.inFlight[transfer]? = some device) :
    ∃ endpoint, .call (.submit device endpoint (.ok transfer)) ∈ history.events := by
  obtain ⟨before, after, parts, -⟩ :=
    List.lookup_eq_some_iff.mp (recounted.owned transfer device flies)
  have member : (transfer, device) ∈ history.issues := by simp [parts]
  obtain ⟨event, happened, issued⟩ := List.mem_filterMap.mp member
  unfold ReplayEvent.issued? at issued
  split at issued
  next owner endpoint given =>
    cases issued
    exact ⟨endpoint, happened⟩
  next => cases issued

theorem waiting_check (bus : ReplayBus) (transfer : Transfer) (device : DeviceId)
    (nothing : ∀ raw, (bus.check transfer).1 ≠ .complete raw) :
    (bus.check transfer).2.reportsOf device = bus.reportsOf device := by
  change ((bus.check transfer).2.scriptOf device).reports = (bus.scriptOf device).reports
  have booked := (bus.booked_check device transfer).reports
  rcases answer : (bus.check transfer).1 with _ | raw | error
  · rw [answer] at booked
    simpa using booked
  · exact absurd answer (nothing raw)
  · rw [answer] at booked
    simpa using booked

theorem script_of_isPlugged (bus : ReplayBus) (device : DeviceId)
    (plugged : bus.isPlugged device = true) : bus.devices[device]? = some (bus.scriptOf device) := by
  rw [ReplayBus.isPlugged, Std.ExtTreeMap.contains_eq_isSome_getElem?] at plugged
  obtain ⟨script, present⟩ := Option.isSome_iff_exists.mp plugged
  rw [ReplayBus.scriptOf, present, Option.getD_some]

theorem submit_fails_iff (bus : ReplayBus) (device : DeviceId)
    (plugged : bus.isPlugged device = true) :
    (∃ error, (bus.submit device).1 = .error error) ↔ 0 < (bus.scriptOf device).failingSubmits := by
  have present := script_of_isPlugged bus device plugged
  simp only [ReplayBus.submit, present]
  split
  next fails => exact ⟨fun _ => fails, fun _ => ⟨_, rfl⟩⟩
  next works =>
    constructor
    · intro failed
      obtain ⟨_, failed⟩ := failed
      cases failed
    · exact fun fails => absurd fails works

theorem check_fails_iff (bus : ReplayBus) (transfer : Transfer) (device : DeviceId)
    (flies : bus.inFlight[transfer]? = some device) (plugged : bus.isPlugged device = true) :
    (∃ error, (bus.check transfer).1 = .failed error) ↔ 0 < (bus.scriptOf device).failingReads := by
  have present : (bus.record (.check transfer)).devices[device]? = some (bus.scriptOf device) :=
    script_of_isPlugged bus device plugged
  rw [bus.check_of_flies transfer device flies]
  simp only [ReplayBus.answer, present]
  split
  next fails => exact ⟨fun _ => fails, fun _ => ⟨_, rfl⟩⟩
  next works =>
    -- the answer is a report or that none has come
    split
    all_goals
      constructor
      · intro failed
        obtain ⟨_, failed⟩ := failed
        cases failed
      · exact fun fails => absurd fails works

theorem check_of_absent (bus : ReplayBus) (transfer : Transfer) (device : DeviceId)
    (flies : bus.inFlight[transfer]? = some device) (absent : bus.isPlugged device = false) :
    (bus.check transfer).1 = .failed (.transferFailed s!"{device.text} was unplugged") ∧
      (bus.check transfer).2.inFlight[transfer]? = none := by
  rw [ReplayBus.isPlugged, Std.ExtTreeMap.contains_eq_isSome_getElem?] at absent
  have missing : (bus.record (.check transfer)).devices[device]? = none :=
    Option.isSome_eq_false_iff.mp absent |> Option.isNone_iff_eq_none.mp
  rw [bus.check_of_flies transfer device flies]
  simp only [ReplayBus.answer, missing]
  refine ⟨trivial, ?_⟩
  exact (ReplayBus.getElem?_inFlight_erase _ transfer transfer).trans (if_pos rfl)

/-- Whatever is done with a new bus, in any order and with any devices and transfers: it delivers
exactly once. -/
theorem delivers_exactly_once (uses : List ReplayUse) : (ofUses uses).ExactlyOnce := by
  have recounted := recounted_ofUses uses
  generalize ofUses uses = history at recounted
  constructor
  case once => exact recounted.nodup_issues
  case flies =>
    intro before device endpoint after transfer split goesOn
    have ends : after.any (ReplayEvent.ends transfer) = false := by
      rw [List.any_eq_false]
      exact fun event member => Bool.eq_false_iff.mp (goesOn event member)
    rw [recounted.inFlight_of_split split, ends]
    rfl
  case landed =>
    intro before device endpoint after transfer split ends
    rw [recounted.inFlight_of_split split, if_pos (List.any_eq_true.mpr ends)]
  case given => exact recounted.given
  case unknown =>
    exact fun transfer unknown => ⟨history.bus.check_of_unknown transfer unknown,
      history.bus.cancel_of_unknown transfer unknown⟩
  case delivered => exact fun device => (recounted.balanced device).reports
  case waiting => exact fun transfer device => waiting_check history.bus transfer device
  case absent => exact fun transfer device => check_of_absent history.bus transfer device
  case submits =>
    intro device plugged
    have balanced := (recounted.balanced device).submits
    rw [submit_fails_iff history.bus device plugged]
    omega
  case reads =>
    intro transfer device flies plugged
    have balanced := (recounted.balanced device).reads
    rw [check_fails_iff history.bus transfer device flies plugged]
    omega

end ReplayHistory

end Gamepad
