import Gamepad.Proofs.ReplayRun

/-!
What a host may ask the bus about. Main statement: in every run over the replay bus a transfer is
asked about or cancelled only after the one submission that gave it out, and no more once it was
cancelled or has been answered for good.
-/

namespace Gamepad

namespace BusEvent

/-- What the log of the bus keeps of an event; the answer to a check is not in it. -/
def logged : BusEvent → BusCall
  | submit device _ (.ok transfer) => .submit device transfer
  | submit device _ (.error _) => .rejected device
  | check transfer _ => .check transfer
  | cancel transfer => .cancel transfer

def submits (transfer : Transfer) : BusEvent → Bool
  | submit _ _ (.ok given) => given = transfer
  | _ => false

def asks (transfer : Transfer) : BusEvent → Bool
  | submit .. => false
  | check asked _ => asked = transfer
  | cancel asked => asked = transfer

/-- After the event the transfer must not be asked about. -/
def ends (transfer : Transfer) : BusEvent → Bool
  | submit .. => false
  | check _ .pending => false
  | check asked (.complete _) => asked = transfer
  | check asked (.failed _) => asked = transfer
  | cancel asked => asked = transfer

theorem asks_of_ends (event : BusEvent) (transfer : Transfer) (finishes : event.ends transfer = true) :
    event.asks transfer = true := by
  cases event with
  | submit => cases finishes
  | cancel => exact finishes
  | check asked answer => cases answer <;> first | exact finishes | cases finishes

theorem ends_of_ne (event : BusEvent) (transfer other : Transfer)
    (about : event.asks transfer = true) (apart : transfer ≠ other) : event.ends other = false := by
  apply Bool.eq_false_iff.mpr
  intro finishes
  have also := event.asks_of_ends other finishes
  cases event with
  | submit => cases about
  | check asked answer => exact apart ((of_decide_eq_true about).symm.trans (of_decide_eq_true also))
  | cancel asked => exact apart ((of_decide_eq_true about).symm.trans (of_decide_eq_true also))

end BusEvent

def MayAsk (before : List BusEvent) (transfer : Transfer) : Prop :=
  before.countP (BusEvent.submits transfer) = 1 ∧
    ∀ earlier ∈ before, earlier.ends transfer = false

def Disciplined (events : List BusEvent) : Prop :=
  ∀ before event after transfer, events = before ++ event :: after →
    event.asks transfer = true → MayAsk before transfer

theorem Disciplined.concat {events : List BusEvent} {event : BusEvent}
    (disciplined : Disciplined events)
    (last : ∀ transfer, event.asks transfer = true → MayAsk events transfer) :
    Disciplined (events ++ [event]) := by
  intro before asked after transfer split asks
  rcases List.eq_nil_or_concat after with rfl | ⟨front, tail, rfl⟩
  · obtain ⟨rfl, same⟩ := List.append_inj' split rfl
    cases same
    exact last transfer asks
  · have shorter : events = before ++ asked :: front := by
      have longer : events ++ [event] = (before ++ asked :: front) ++ [tail] := by
        simpa using split
      exact (List.append_inj' longer rfl).1
    exact disciplined before asked front transfer shorter asks

/-- The record of a replay bus: what is in it, and what it says about the transfers. -/
structure Orderly (recorded : RecordedBus ReplayBus) : Prop where
  log : recorded.bus.log.toList = recorded.events.map BusEvent.logged
  submitted : ∀ transfer, recorded.events.countP (BusEvent.submits transfer) =
    if transfer.serial < recorded.bus.nextSerial then 1 else 0
  inFlight : ∀ transfer device, recorded.bus.inFlight[transfer]? = some device →
    ∀ event ∈ recorded.events, event.ends transfer = false
  disciplined : Disciplined recorded.events
  known : ∀ transfer other,
    .check transfer (.failed (.unknownTransfer other)) ∉ recorded.events

namespace Orderly

variable {recorded : RecordedBus ReplayBus}

theorem serial_lt_of_ends (orderly : Orderly recorded) (transfer : Transfer) (event : BusEvent)
    (member : event ∈ recorded.events) (finishes : event.ends transfer = true) :
    transfer.serial < recorded.bus.nextSerial := by
  obtain ⟨before, after, split⟩ := List.append_of_mem member
  have once := (orderly.disciplined before event after transfer split
    (event.asks_of_ends transfer finishes)).1
  have total := orderly.submitted transfer
  rw [split, List.countP_append, once] at total
  split at total
  · assumption
  · omega

theorem mayAsk (orderly : Orderly recorded) (issued : recorded.bus.Issued) (transfer : Transfer)
    (device : DeviceId) (flies : recorded.bus.inFlight[transfer]? = some device) :
    MayAsk recorded.events transfer := by
  refine ⟨?_, orderly.inFlight transfer device flies⟩
  rw [orderly.submitted, if_pos (issued transfer device flies)]

/-- One more event keeps the record in order, if it is a question that may be asked, and the bus
counts what it gives out and forgets what it ends. -/
theorem note (orderly : Orderly recorded) (event : BusEvent) (later : ReplayBus)
    (log : later.log = recorded.bus.log.push event.logged)
    (asked : ∀ transfer, event.asks transfer = true → MayAsk recorded.events transfer)
    (given : ∀ transfer, (if transfer.serial < recorded.bus.nextSerial then 1 else 0) +
      (if event.submits transfer = true then 1 else 0) =
        if transfer.serial < later.nextSerial then 1 else 0)
    (inFlight : ∀ transfer device, later.inFlight[transfer]? = some device →
      event.ends transfer = false ∧
        (recorded.bus.inFlight[transfer]? = some device ∨ recorded.bus.nextSerial ≤ transfer.serial))
    (known : ∀ transfer other, event ≠ .check transfer (.failed (.unknownTransfer other))) :
    Orderly (recorded.note later event) where
  log := by
    simp only [RecordedBus.note, log, Array.toList_push, orderly.log, List.map_append,
      List.map_cons, List.map_nil]
  submitted transfer := by
    simp only [RecordedBus.note, List.countP_append, List.countP_singleton, orderly.submitted]
    exact given transfer
  inFlight transfer device flies earlier member := by
    obtain ⟨goesOn, old⟩ := inFlight transfer device flies
    rcases List.mem_append.mp member with before | last
    · rcases old with old | new
      · exact orderly.inFlight transfer device old earlier before
      · apply Bool.eq_false_iff.mpr
        intro finishes
        exact Nat.not_lt_of_le new (orderly.serial_lt_of_ends transfer earlier before finishes)
    · rw [List.mem_singleton.mp last]
      exact goesOn
  disciplined := orderly.disciplined.concat asked
  known transfer other member := by
    rcases List.mem_append.mp member with before | last
    · exact orderly.known transfer other before
    · exact known transfer other (List.mem_singleton.mp last).symm

theorem script (orderly : Orderly recorded) (change : BusStep) :
    Orderly { recorded with bus := recorded.bus.apply change } := by
  obtain ⟨inFlight, serial, log⟩ := recorded.bus.apply_frame change
  constructor
  · simp only [log, orderly.log]
  · simp only [serial]
    exact orderly.submitted
  · simp only [inFlight]
    exact orderly.inFlight
  · exact orderly.disciplined
  · exact orderly.known

theorem submit (orderly : Orderly recorded) (device : DeviceId) (endpoint : Endpoint) :
    Orderly (Bus.submit device endpoint recorded).2 := by
  rcases recorded.bus.submit_cases device with
    ⟨error, answer, inFlight, serial, log⟩ | ⟨answer, inFlight, serial, log⟩
  · refine orderly.note (.submit device endpoint _) (recorded.bus.submit device).2 ?_ ?_ ?_ ?_ ?_
    · rw [answer]
      exact log
    · simp [BusEvent.asks]
    · simp [answer, BusEvent.submits, serial]
    · intro transfer owner flies
      rw [inFlight] at flies
      exact ⟨rfl, .inl flies⟩
    · simp
  · refine orderly.note (.submit device endpoint _) (recorded.bus.submit device).2 ?_ ?_ ?_ ?_ ?_
    · rw [answer]
      exact log
    · simp [BusEvent.asks]
    · intro transfer
      rcases transfer with ⟨number⟩
      simp only [answer, BusEvent.submits, decide_eq_true_eq, serial, Transfer.mk.injEq]
      split <;> split <;> split <;> omega
    · intro transfer owner flies
      rw [inFlight, ReplayBus.getElem?_inFlight_insert] at flies
      split at flies
      next new => exact ⟨rfl, .inr (new ▸ Nat.le_refl _)⟩
      next => exact ⟨rfl, .inl flies⟩
    · simp

theorem check (orderly : Orderly recorded) (issued : recorded.bus.Issued) (transfer : Transfer)
    (device : DeviceId) (flies : recorded.bus.inFlight[transfer]? = some device) :
    Orderly (Bus.check transfer recorded).2 := by
  obtain ⟨inFlight, serial, log, known⟩ := recorded.bus.check_of_inFlight transfer device flies
  refine orderly.note (.check transfer _) (recorded.bus.check transfer).2 log ?_ ?_ ?_ ?_
  · intro other asks
    cases of_decide_eq_true asks
    exact orderly.mayAsk issued transfer device flies
  · simp [BusEvent.submits, serial]
  · intro other owner still
    rw [inFlight] at still
    split at still
    next pending =>
      rw [pending]
      exact ⟨rfl, .inl still⟩
    next =>
      obtain ⟨apart, still⟩ := recorded.bus.other_of_erase transfer other owner still
      exact ⟨BusEvent.ends_of_ne (.check transfer _) transfer other (by simp [BusEvent.asks]) apart,
        .inl still⟩
  · intro asked other same
    exact known other (BusEvent.check.inj same).2

theorem cancel (orderly : Orderly recorded) (issued : recorded.bus.Issued) (transfer : Transfer)
    (device : DeviceId) (flies : recorded.bus.inFlight[transfer]? = some device) :
    Orderly (Bus.cancel transfer recorded) := by
  refine orderly.note (.cancel transfer) (recorded.bus.cancel transfer) rfl ?_ ?_ ?_ ?_
  · intro other asks
    cases of_decide_eq_true asks
    exact orderly.mayAsk issued transfer device flies
  · simp [BusEvent.submits]
    exact fun _ => rfl
  · intro other owner still
    obtain ⟨apart, still⟩ := recorded.bus.other_of_erase transfer other owner still
    exact ⟨BusEvent.ends_of_ne (.cancel transfer) transfer other (by simp [BusEvent.asks]) apart,
      .inl still⟩
  · simp

end Orderly

namespace Session

variable {recorded : RecordedBus ReplayBus}

theorem poll_orderly (session : Session) (keyMap : KeyMap) (quantizer : Quantizer)
    (orderly : Orderly recorded) (issued : recorded.bus.Issued)
    (flies : ∀ transfer, session.transfer = some transfer →
      recorded.bus.inFlight[transfer]? = some session.device) :
    Orderly (session.poll keyMap quantizer recorded).2.2 := by
  cases held : session.transfer with
  | none =>
    simp only [poll, held]
    exact orderly.submit session.device session.endpoint
  | some transfer =>
    have asked := orderly.check issued transfer session.device (flies transfer held)
    rcases checked : Bus.check transfer recorded with ⟨answer, later⟩
    rw [checked] at asked
    simp only [poll, held, checked]
    cases answer with
    | pending => exact asked
    | complete raw => exact asked.submit session.device session.endpoint
    | failed error => exact asked.submit session.device session.endpoint

theorem detach_orderly (session : Session) (orderly : Orderly recorded)
    (issued : recorded.bus.Issued)
    (flies : ∀ transfer, session.transfer = some transfer →
      recorded.bus.inFlight[transfer]? = some session.device) :
    Orderly (session.detach recorded).2 := by
  unfold detach
  split
  next => exact orderly
  next transfer held => exact orderly.cancel issued transfer session.device (flies transfer held)

end Session

namespace Host

variable {ι : Type} [InputLayer ι]

def InOrder (host : Host (RecordedBus ReplayBus) ι) : Prop :=
  ReadsHeld host.registry host.bus.bus ∧ Orderly host.bus

theorem inOrder_move (before after : Host (RecordedBus ReplayBus) ι) (move : Move before after)
    (inOrder : InOrder before) : InOrder after := by
  obtain ⟨reads, orderly⟩ := inOrder
  have viewed := move_view RecordedBus.busView before after move
  refine ⟨reads_held_move _ _ viewed reads, ?_⟩
  cases move with
  | bound keyMap => exact orderly
  | refused device endpoint error refused => exact orderly.submit device endpoint
  | settled device berth found transfer accepted => exact orderly.submit device.id berth.endpoint
  | released handle entry live =>
    have lives := ((before.registry.entry?_eq_some_iff handle entry).mp live).1
    exact entry.session.detach_orderly orderly reads.issued (reads.flies lives)
  | advanced handle entry live =>
    have lives := ((before.registry.entry?_eq_some_iff handle entry).mp live).1
    exact entry.session.poll_orderly _ _ orderly reads.issued (reads.flies lives)

theorem orderly_start : Orderly (RecordedBus.start {}) where
  log := rfl
  submitted _ := rfl
  inFlight _ _ _ _ member := by cases member
  disciplined before event after transfer split := by
    simp [RecordedBus.start] at split
  known _ _ member := by cases member

theorem inOrder_replayRecorded (settings : RegistrySettings) (keyMap : KeyMap) (inputs : ι)
    (steps : List ReplayStep) :
    InOrder ((create settings keyMap (RecordedBus.start {}) inputs).replayRecorded steps) := by
  refine kept_by_run InOrder inOrder_move _ ?_ _ ⟨reads_held_create settings keyMap inputs, orderly_start⟩
  intro change member host inOrder
  obtain ⟨reads, orderly⟩ := inOrder
  obtain ⟨plain, listed, same⟩ := List.mem_map.mp member
  cases plain with
  | call made => cases same
  | outside given =>
    obtain ⟨script, rfl⟩ := ReplayStep.exists_script_of_outside steps given listed
    cases same
    obtain ⟨inFlight, serial, -⟩ := host.bus.bus.apply_frame script
    exact ⟨reads.of_same (fun _ => rfl) inFlight serial, orderly.script script⟩

/-- In every run that starts with no session and an empty bus, the reads in flight are exactly
those that the live sessions hold, each for the device of its session and none held twice. A
transfer is asked about or cancelled only after exactly one submission gave it out, and neither
after it was cancelled nor after it was answered for good; so no check is ever told that the
transfer is unknown. The log of the bus is the record without the answers. -/
theorem transfers_disciplined (settings : RegistrySettings) (keyMap : KeyMap) (inputs : ι)
    (steps : List ReplayStep) :
    let host := (create settings keyMap ({} : ReplayBus) inputs).replay steps
    let recorded := (create settings keyMap (RecordedBus.start {}) inputs).replayRecorded steps
    let events := recorded.bus.events
    (∀ transfer device, host.bus.inFlight[transfer]? = some device ↔
      ∃ handle session, host.registry.session? handle = some session ∧
        session.transfer = some transfer ∧ session.device = device) ∧
    (∀ first second one two transfer, host.registry.session? first = some one →
      host.registry.session? second = some two → one.transfer = some transfer →
      two.transfer = some transfer → first = second) ∧
    recorded.viewBus RecordedBus.bus = host ∧
    host.bus.log.toList = events.map BusEvent.logged ∧
    (∀ before event after transfer, events = before ++ event :: after →
      event.asks transfer = true →
      before.countP (BusEvent.submits transfer) = 1 ∧
        ∀ earlier ∈ before, earlier.ends transfer = false) ∧
    ∀ transfer other, .check transfer (.failed (.unknownTransfer other)) ∉ events := by
  intro host recorded events
  have plain : recorded.viewBus RecordedBus.bus = host := viewBus_replayRecorded _ steps
  obtain ⟨-, orderly⟩ := inOrder_replayRecorded settings keyMap inputs steps
  have held : ReadsHeld host.registry host.bus :=
    reads_held_replay _ steps (reads_held_create settings keyMap inputs)
  refine ⟨?_, ?_, plain, ?_, orderly.disciplined, orderly.known⟩
  · intro transfer device
    rw [held.inFlight]
    constructor
    · rintro ⟨number, reading⟩
      exact host.registry.exists_session_of_reading? number transfer device reading
    · rintro ⟨handle, session, live, holds, rfl⟩
      exact ⟨_, host.registry.reading?_of_session? handle session transfer live holds⟩
  · intro first second one two transfer firstLive secondLive oneHolds twoHolds
    have slot : first.slot = second.slot := held.unshared _ _ transfer one.device two.device
      (host.registry.reading?_of_session? first one transfer firstLive oneHolds)
      (host.registry.reading?_of_session? second two transfer secondLive twoHolds)
    have generation := host.registry.generationAt_of_session? first one firstLive
    rw [slot, host.registry.generationAt_of_session? second two secondLive] at generation
    cases first
    cases second
    simp only [SessionHandle.mk.injEq]
    exact ⟨slot, generation.symm⟩
  · rw [← plain]
    exact orderly.log

end Host

end Gamepad
