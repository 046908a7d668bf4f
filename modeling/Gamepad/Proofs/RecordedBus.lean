import Gamepad.Host

/-!
A bus that records its calls together with its answers. Whoever uses a bus cannot tell whether it
is recorded, so the record of a run is about the run without it.
-/

namespace Gamepad

inductive BusEvent
  | submit (device : DeviceId) (endpoint : Endpoint) (answer : Except BusError Transfer)
  | check (transfer : Transfer) (answer : ReadStatus)
  | cancel (transfer : Transfer)

structure RecordedBus (β : Type) where
  bus : β
  events : List BusEvent

namespace RecordedBus

variable {β : Type}

def start (bus : β) : RecordedBus β where
  bus
  events := []

def note (recorded : RecordedBus β) (bus : β) (event : BusEvent) : RecordedBus β where
  bus
  events := recorded.events ++ [event]

instance [Bus β] : Bus (RecordedBus β) where
  submit device endpoint recorded :=
    let (answer, bus) := Bus.submit device endpoint recorded.bus
    (answer, recorded.note bus (.submit device endpoint answer))
  check transfer recorded :=
    let (answer, bus) := Bus.check transfer recorded.bus
    (answer, recorded.note bus (.check transfer answer))
  cancel transfer recorded :=
    recorded.note (Bus.cancel transfer recorded.bus) (.cancel transfer)

end RecordedBus

/-- A way to look at a bus as another one that gives the same answers. -/
structure BusView {β γ : Type} [Bus β] [Bus γ] (view : γ → β) : Prop where
  submit : ∀ device endpoint bus, Bus.submit device endpoint (view bus) =
    Prod.map id view (Bus.submit device endpoint bus)
  check : ∀ transfer bus, Bus.check transfer (view bus) = Prod.map id view (Bus.check transfer bus)
  cancel : ∀ transfer bus, Bus.cancel transfer (view bus) = view (Bus.cancel transfer bus)

theorem RecordedBus.busView {β : Type} [Bus β] : BusView (RecordedBus.bus : RecordedBus β → β) where
  submit _ _ _ := rfl
  check _ _ := rfl
  cancel _ _ := rfl

section Views

variable {β γ ι : Type} [Bus β] [Bus γ] {view : γ → β} (same : BusView view)
include same

theorem Session.attach_view (device : DeviceId) (profile : Profile) (endpoint : Endpoint)
    (policy : OverflowPolicy) (bus : γ) :
    Session.attach device profile endpoint policy (view bus) =
      Prod.map id view (Session.attach device profile endpoint policy bus) := by
  unfold Session.attach
  rw [same.submit]
  rfl

theorem Session.advance_view (session : Session) (bus : γ) :
    session.advance (view bus) = Prod.map id (Prod.map id view) (session.advance bus) := by
  unfold Session.advance
  rw [same.submit]
  rfl

theorem Session.poll_view (session : Session) (keyMap : KeyMap) (quantizer : Quantizer) (bus : γ) :
    session.poll keyMap quantizer (view bus) =
      Prod.map id (Prod.map id view) (session.poll keyMap quantizer bus) := by
  unfold Session.poll
  split
  next => exact Session.advance_view same session bus
  next transfer held =>
    rw [same.check]
    rcases Bus.check transfer bus with ⟨answer, later⟩
    cases answer with
    | pending => rfl
    | complete raw => exact Session.advance_view same _ later
    | failed error => exact Session.advance_view same session later

theorem Session.detach_view (session : Session) (bus : γ) :
    session.detach (view bus) = Prod.map id view (session.detach bus) := by
  unfold Session.detach
  split
  next => rfl
  next => rw [same.cancel]; rfl

end Views

end Gamepad
