import Gamepad.Bus.Replay
import Gamepad.Proofs.BoundedQueue
import Gamepad.Proofs.RecordedBus

/-!
The keys that a session hands out, over any bus. A session is seen as the report before and the
list of the waiting keys; a poll is seen as the events on the bus and the answer to the caller.
Main statement: after any number of polls the answers are those of the plain list that takes in
the keys of every finished report in turn.
-/

namespace Gamepad

/-- What a session has read and holds back, without its bus and its ring of slots. -/
structure KeyStream where
  previous : Report
  keys : List KeyCode

namespace KeyStream

/-- A report comes in; its keys line up one by one, and at most 32 keys are kept. -/
def receive (stream : KeyStream) (policy : OverflowPolicy) (keyMap : KeyMap) (quantizer : Quantizer)
    (current : Report) : KeyStream where
  previous := current
  keys := KeyQueue.boundedPushAll 32 policy stream.keys
    (Transition.keys quantizer keyMap stream.previous current)

def handOut (stream : KeyStream) : KeyPoll × KeyStream :=
  match stream.keys with
  | [] => (.noKey, stream)
  | key :: keys => (.key key, { stream with keys })

end KeyStream

namespace Session

def stream (session : Session) : KeyStream where
  previous := session.previous
  keys := session.queue.toList

theorem stream_receive (session : Session) (keyMap : KeyMap) (quantizer : Quantizer)
    (current : Report) :
    (session.receive keyMap quantizer current).stream =
      session.stream.receive session.queue.policy keyMap quantizer current := by
  unfold stream receive KeyStream.receive
  rw [(session.queue.toList_pushAll _).1]

theorem policy_receive (session : Session) (keyMap : KeyMap) (quantizer : Quantizer)
    (current : Report) :
    (session.receive keyMap quantizer current).queue.policy = session.queue.policy :=
  (session.queue.toList_pushAll _).2

def resumed (session : Session) (answer : Except BusError Transfer) : Session :=
  { session with
    transfer := answer.toOption
    queue := session.queue.pop.2 }

theorem stream_resumed (session : Session) (answer : Except BusError Transfer) :
    (session.resumed answer).stream = session.stream.handOut.2 := by
  unfold stream KeyStream.handOut resumed
  simp only [KeyQueue.toList_pop]
  cases session.queue.toList <;> rfl

variable {β : Type} [Bus β]

theorem advance_eq (session : Session) (bus : β) :
    session.advance bus =
      (session.stream.handOut.1,
        session.resumed (Bus.submit session.device session.endpoint bus).1,
        (Bus.submit session.device session.endpoint bus).2) := by
  have first := session.queue.pop_fst
  unfold advance KeyStream.handOut stream
  cases keys : session.queue.toList with
  | nil => simp only [first, keys, List.head?_nil]; rfl
  | cons key rest => simp only [first, keys, List.head?_cons]; rfl

/-- Everything that one poll can do: the events on the bus, the answer, and the session after. -/
inductive Polled (session : Session) (keyMap : KeyMap) (quantizer : Quantizer) :
    List BusEvent → KeyPoll → Session → Prop
  | pending (transfer : Transfer) (held : session.transfer = some transfer) :
    Polled session keyMap quantizer [.check transfer .pending] .pending session
  | complete (transfer : Transfer) (held : session.transfer = some transfer) (raw : RawReport)
      (answer : Except BusError Transfer) (read : Session)
      (reads : read = session.receive keyMap quantizer (session.profile.decode raw)) :
    Polled session keyMap quantizer
      [.check transfer (.complete raw), .submit session.device session.endpoint answer]
      read.stream.handOut.1 (read.resumed answer)
  | failed (transfer : Transfer) (held : session.transfer = some transfer) (error : BusError)
      (answer : Except BusError Transfer) :
    Polled session keyMap quantizer
      [.check transfer (.failed error), .submit session.device session.endpoint answer]
      session.stream.handOut.1 (session.resumed answer)
  | unread (held : session.transfer = none) (answer : Except BusError Transfer) :
    Polled session keyMap quantizer [.submit session.device session.endpoint answer]
      session.stream.handOut.1 (session.resumed answer)

theorem poll_polled (session : Session) (keyMap : KeyMap) (quantizer : Quantizer)
    (recorded : RecordedBus β) :
    ∃ events,
      Polled session keyMap quantizer events (session.poll keyMap quantizer recorded).1
        (session.poll keyMap quantizer recorded).2.1 ∧
      (session.poll keyMap quantizer recorded).2.2.events = recorded.events ++ events := by
  unfold poll
  split
  next held =>
    rw [advance_eq]
    exact ⟨_, .unread held _, rfl⟩
  next transfer held =>
    have noted : Bus.check transfer recorded =
        ((Bus.check transfer recorded.bus).1,
          recorded.note (Bus.check transfer recorded.bus).2
            (.check transfer (Bus.check transfer recorded.bus).1)) := rfl
    rw [noted]
    cases (Bus.check transfer recorded.bus).1 with
    | pending => exact ⟨_, .pending transfer held, rfl⟩
    | complete raw =>
      simp only [advance_eq]
      exact ⟨_, .complete transfer held raw _ _ rfl, List.append_assoc _ _ _⟩
    | failed error =>
      simp only [advance_eq]
      exact ⟨_, .failed transfer held error _, List.append_assoc _ _ _⟩

end Session

structure PollTurn (β : Type) where
  keyMap : KeyMap
  quantizer : Quantizer
  /-- What happens to the bus before the poll, by whatever else uses it. -/
  meanwhile : β → β

structure PollRecord where
  keyMap : KeyMap
  quantizer : Quantizer
  before : Session
  events : List BusEvent
  result : KeyPoll
  after : Session

namespace PollRecord

/-- What the bus said about the read that was in flight, if there was one. -/
def status? (record : PollRecord) : Option ReadStatus :=
  record.events.findSome? fun
    | .check _ answer => some answer
    | _ => none

def report? (record : PollRecord) : Option RawReport :=
  match record.status? with
  | some (.complete raw) => some raw
  | _ => none

def submissions (record : PollRecord) : List BusEvent :=
  record.events.filter fun
    | .submit .. => true
    | _ => false

/-- A poll that has to wait: nothing is submitted and nothing changes. -/
structure Waits (record : PollRecord) : Prop where
  result : record.result = .pending
  submissions : record.submissions = []
  after : record.after = record.before

def arrived (record : PollRecord) : KeyStream :=
  match record.report? with
  | some raw =>
    record.before.stream.receive record.before.queue.policy record.keyMap record.quantizer
      (record.before.profile.decode raw)
  | none => record.before.stream

/-- A poll that goes on: one read is submitted and kept if it is accepted, and the first key goes
out. -/
structure GoesOn (record : PollRecord) : Prop where
  submits : ∃ answer,
    record.submissions = [.submit record.before.device record.before.endpoint answer] ∧
    record.after.transfer = answer.toOption
  handsOut : (record.result, record.after.stream) = record.arrived.handOut

end PollRecord

namespace KeyStream

/-- The plain list's answer to a poll, from what the bus said and the tables of the poll. -/
def follow (policy : OverflowPolicy) (profile : Profile) (stream : KeyStream)
    (record : PollRecord) : KeyPoll × KeyStream :=
  match record.status? with
  | some .pending => (.pending, stream)
  | some (.complete raw) =>
    (stream.receive policy record.keyMap record.quantizer (profile.decode raw)).handOut
  | _ => stream.handOut

def followAll (policy : OverflowPolicy) (profile : Profile) :
    List PollRecord → KeyStream → List KeyPoll × KeyStream
  | [], stream => ([], stream)
  | record :: rest, stream =>
    let (result, stream) := stream.follow policy profile record
    let (results, stream) := followAll policy profile rest stream
    (result :: results, stream)

end KeyStream

namespace Session

variable {β : Type} [Bus β]

def pollTurn (session : Session) (turn : PollTurn β) (bus : β) : PollRecord × β :=
  let bus := turn.meanwhile bus
  let (result, after, later) := session.poll turn.keyMap turn.quantizer bus
  let recorded := (session.poll turn.keyMap turn.quantizer (RecordedBus.start bus)).2.2
  ({ keyMap := turn.keyMap
     quantizer := turn.quantizer
     before := session
     events := recorded.events
     result
     after }, later)

def pollAll : List (PollTurn β) → Session → β → List PollRecord × Session
  | [], session, _ => ([], session)
  | turn :: rest, session, bus =>
    let (record, bus) := session.pollTurn turn bus
    let (records, session) := pollAll rest record.after bus
    (record :: records, session)

theorem pollTurn_polled (session : Session) (turn : PollTurn β) (bus : β) :
    let record := (session.pollTurn turn bus).1
    Polled session turn.keyMap turn.quantizer record.events record.result record.after := by
  obtain ⟨events, polled, noted⟩ := session.poll_polled turn.keyMap turn.quantizer
    (RecordedBus.start (turn.meanwhile bus))
  have plain := session.poll_view RecordedBus.busView turn.keyMap turn.quantizer
    (RecordedBus.start (turn.meanwhile bus))
  simp only [RecordedBus.start, List.nil_append] at plain noted polled
  simp only [pollTurn, RecordedBus.start, plain, noted]
  exact polled

end Session

namespace PollRecord

def Sound (record : PollRecord) : Prop :=
  record.before.Polled record.keyMap record.quantizer record.events record.result record.after

theorem Sound.waits {record : PollRecord} (sound : record.Sound)
    (pending : record.status? = some .pending) : record.Waits := by
  rcases record with ⟨keyMap, quantizer, before, events, result, after⟩
  change before.Polled keyMap quantizer events result after at sound
  cases sound with
  | pending => exact ⟨rfl, rfl, rfl⟩
  | complete => cases pending
  | failed => cases pending
  | unread => cases pending

theorem Sound.goesOn {record : PollRecord} (sound : record.Sound)
    (answered : record.status? ≠ some .pending) : record.GoesOn := by
  rcases record with ⟨keyMap, quantizer, before, events, result, after⟩
  change before.Polled keyMap quantizer events result after at sound
  cases sound with
  | pending => exact absurd rfl answered
  | complete transfer held raw answer read reads =>
    subst reads
    refine ⟨⟨answer, rfl, rfl⟩, ?_⟩
    rw [Session.stream_resumed, Session.stream_receive]
    rfl
  | failed transfer held error answer =>
    refine ⟨⟨answer, rfl, rfl⟩, ?_⟩
    rw [Session.stream_resumed]
    rfl
  | unread held answer =>
    refine ⟨⟨answer, rfl, rfl⟩, ?_⟩
    rw [Session.stream_resumed]
    rfl

theorem Sound.previous {record : PollRecord} (sound : record.Sound) :
    record.after.previous =
      (record.report?.map record.before.profile.decode).getD record.before.previous := by
  rcases record with ⟨keyMap, quantizer, before, events, result, after⟩
  change before.Polled keyMap quantizer events result after at sound
  cases sound with
  | complete transfer held raw answer read reads => subst reads; rfl
  | _ => rfl

theorem Sound.profile {record : PollRecord} (sound : record.Sound) :
    record.after.profile = record.before.profile := by
  rcases record with ⟨keyMap, quantizer, before, events, result, after⟩
  change before.Polled keyMap quantizer events result after at sound
  cases sound with
  | complete transfer held raw answer read reads => subst reads; rfl
  | _ => rfl

theorem Sound.policy {record : PollRecord} (sound : record.Sound) :
    record.after.queue.policy = record.before.queue.policy := by
  rcases record with ⟨keyMap, quantizer, before, events, result, after⟩
  change before.Polled keyMap quantizer events result after at sound
  cases sound with
  | pending => rfl
  | complete transfer held raw answer read reads =>
    subst reads
    exact (KeyQueue.policy_pop _).trans (Session.policy_receive _ _ _ _)
  | failed => exact KeyQueue.policy_pop _
  | unread => exact KeyQueue.policy_pop _

theorem Sound.follow {record : PollRecord} (sound : record.Sound) :
    (record.result, record.after.stream) =
      record.before.stream.follow record.before.queue.policy record.before.profile record := by
  by_cases pending : record.status? = some .pending
  · have waits := sound.waits pending
    rw [waits.result, waits.after, KeyStream.follow, pending]
  · rw [(sound.goesOn pending).handsOut]
    unfold arrived report? KeyStream.follow
    rcases status : record.status? with _ | _ | _ | _
    · rfl
    · exact absurd status pending
    · rfl
    · rfl

end PollRecord

namespace Session

variable {β : Type} [Bus β]

theorem sound_of_mem_pollAll (turns : List (PollTurn β)) (session : Session) (bus : β) :
    ∀ record ∈ (session.pollAll turns bus).1, record.Sound := by
  induction turns generalizing session bus with
  | nil => simp [pollAll]
  | cons turn rest ih =>
    intro record member
    rcases List.mem_cons.mp member with first | later
    · subst first
      exact session.pollTurn_polled turn bus
    · exact ih _ _ record later

theorem previous_pollAll (turns : List (PollTurn β)) (session : Session) (bus : β) :
    (session.pollAll turns bus).2.previous =
      (((session.pollAll turns bus).1.filterMap PollRecord.report?).getLast?.map
        session.profile.decode).getD session.previous := by
  induction turns generalizing session bus with
  | nil => rfl
  | cons turn rest ih =>
    have sound : (session.pollTurn turn bus).1.Sound := session.pollTurn_polled turn bus
    have before : (session.pollTurn turn bus).1.before = session := rfl
    simp only [pollAll, List.filterMap_cons]
    rw [ih, sound.previous, sound.profile, before]
    cases (session.pollTurn turn bus).1.report? with
    | none => rfl
    | some raw =>
      rw [List.getLast?_cons]
      cases (List.filterMap PollRecord.report? _).getLast? <;> rfl

theorem pollAll_eq_followAll (turns : List (PollTurn β)) (session : Session) (bus : β) :
    ((session.pollAll turns bus).1.map PollRecord.result, (session.pollAll turns bus).2.stream) =
      session.stream.followAll session.queue.policy session.profile (session.pollAll turns bus).1 := by
  induction turns generalizing session bus with
  | nil => rfl
  | cons turn rest ih =>
    have sound : (session.pollTurn turn bus).1.Sound := session.pollTurn_polled turn bus
    have before : (session.pollTurn turn bus).1.before = session := rfl
    have step := sound.follow
    have later := ih (session.pollTurn turn bus).1.after (session.pollTurn turn bus).2
    rw [sound.policy, sound.profile] at later
    rw [before] at step later
    simp only [pollAll, KeyStream.followAll, List.map_cons, ← step, ← later]

/-- A poll that sees a pending read waits; every other poll goes on. The report before is the last
one that has come in, and the answers so far are those of the plain list. The bus is any bus, and
what it is told by others between two polls is arbitrary too. -/
theorem key_stream_of_polls (device : DeviceId) (profile : Profile) (endpoint : Endpoint)
    (policy : OverflowPolicy) (bus : β) (session : Session)
    (opened : (attach device profile endpoint policy bus).1 = .ok session)
    (turns : List (PollTurn β)) :
    let later := (attach device profile endpoint policy bus).2
    let records := (session.pollAll turns later).1
    let final := (session.pollAll turns later).2
    (∀ record ∈ records, record.status? = some .pending → record.Waits) ∧
    (∀ record ∈ records, record.status? ≠ some .pending → record.GoesOn) ∧
    final.previous =
      ((records.filterMap PollRecord.report?).getLast?.map profile.decode).getD profile.idle ∧
    (records.map PollRecord.result, final.stream) =
      KeyStream.followAll policy profile records { previous := profile.idle, keys := [] } := by
  have fresh : ∃ transfer, session =
      { device, profile, endpoint, transfer, previous := profile.idle, queue := .empty policy } := by
    simp only [attach, Except.map] at opened
    split at opened
    · cases opened
    · exact ⟨_, (Except.ok.inj opened).symm⟩
  obtain ⟨transfer, fresh⟩ := fresh
  refine ⟨fun record member => (sound_of_mem_pollAll turns _ _ record member).waits,
    fun record member => (sound_of_mem_pollAll turns _ _ record member).goesOn, ?_, ?_⟩
  · rw [previous_pollAll, fresh]
  · have empty : session.stream = { previous := profile.idle, keys := [] } := by
      rw [fresh, stream, KeyQueue.toList_empty]
    rw [pollAll_eq_followAll, empty, fresh]
    rfl

theorem key_stream_of_first_press :
    let raw : RawReport := #v[127, 127, 127, 127, 0x18, 0, 0, 0]
    let bus := (({} : ReplayBus).plug ⟨7⟩).pushReport ⟨7⟩ raw
    let turn : PollTurn ReplayBus :=
      { keyMap := KeyMap.empty.write (.button 0) ⟨0x55⟩, quantizer := {}, meanwhile := id }
    ∃ session, (attach ⟨7⟩ .rumblePad (.interruptIn 1) .dropOldest bus).1 = .ok session ∧
      let run := session.pollAll [turn, turn] (attach ⟨7⟩ .rumblePad (.interruptIn 1) .dropOldest bus).2
      run.2.previous = Report.decode raw ∧ run.1.map PollRecord.result = [.key ⟨0x55⟩, .pending] := by
  intro raw bus turn
  refine ⟨_, rfl, ?_⟩
  have stream := key_stream_of_polls ⟨7⟩ .rumblePad (.interruptIn 1) .dropOldest bus _ rfl [turn, turn]
  exact ⟨stream.2.2.1.trans rfl, (congrArg Prod.fst stream.2.2.2).trans (by decide +kernel)⟩

end Session

end Gamepad
