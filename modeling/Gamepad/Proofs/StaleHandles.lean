import Gamepad.Bus.Replay
import Gamepad.Proofs.HostRun
import Mathlib.Algebra.Group.Nat.Defs

/-!
How long a handle lives. A slot counts its detaches in 32 bits, so the generation of a slot tells
how many detaches it has seen up to a multiple of 2^32. Main statement: a handle is live exactly
while its slot is occupied and has seen such a multiple of detaches since the handle was given.
-/

namespace Gamepad

def HostCall.detaches (registry : Registry) : HostCall → List SessionHandle
  | .detach handle => [handle]
  | .detachDevice device => (registry.findDevice? device).toList
  | .shutdown => registry.handles
  | _ => []

namespace Host

variable {β ι : Type} [Bus β] [InputLayer ι]

def detachAll (host : Host β ι) (handles : List SessionHandle) : Host β ι :=
  handles.foldl (fun host handle => (host.detach handle).2) host

/-- Those of the detaches that end a session. -/
def ended : List SessionHandle → Host β ι → List SessionHandle
  | [], _ => []
  | handle :: rest, host =>
    if (host.detach handle).1 then handle :: ended rest (host.detach handle).2
    else ended rest (host.detach handle).2

def endedIn (slot : Nat) (host : Host β ι) : HostStep β ι → Nat
  | .call call =>
    (ended (call.detaches host.registry) host).countP fun handle => handle.slot = slot
  | .outside _ => 0

def detachCount (slot : Nat) : List (HostStep β ι) → Host β ι → Nat
  | [], _ => 0
  | step :: rest, host => host.endedIn slot step + detachCount slot rest (host.step step)

/-- What a slot shows of the detaches: the generation has gone on by their number, and without any
the slot keeps its session. -/
structure Counts (slot count : Nat) (before after : Registry) : Prop where
  capacity : after.capacity = before.capacity
  generation : after.generationAt slot = before.generationAt slot + .ofNat count
  occupied : count = 0 → (before.occupant? slot).isSome → (after.occupant? slot).isSome

theorem Counts.refl (slot : Nat) (registry : Registry) : Counts slot 0 registry registry where
  capacity := rfl
  generation := by simp
  occupied _ := id

theorem Counts.trans {slot first second : Nat} {before middle after : Registry}
    (early : Counts slot first before middle) (late : Counts slot second middle after) :
    Counts slot (first + second) before after where
  capacity := late.capacity.trans early.capacity
  generation := by rw [late.generation, early.generation, UInt32.ofNat_add, UInt32.add_assoc]
  occupied none lives := late.occupied (by omega) (early.occupied (by omega) lives)

theorem counts_occupy (slot number : Nat) (registry : Registry) (entry : RegistryEntry)
    (inside : number < registry.capacity) : Counts slot 0 registry (registry.occupy number entry) where
  capacity := registry.capacity_occupy number entry
  generation := by simp [registry.generationAt_occupy]
  occupied _ lives := by
    by_cases same : number = slot
    · subst same
      rw [registry.occupant?_occupy_self number entry inside]
      rfl
    · rwa [registry.occupant?_occupy_of_ne number slot entry same]

theorem counts_vacate (slot number : Nat) (registry : Registry) (inside : number < registry.capacity) :
    Counts slot (if number = slot then 1 else 0) registry (registry.vacate number) where
  capacity := registry.capacity_vacate number
  generation := by
    by_cases same : number = slot
    · subst same
      rw [registry.generationAt_vacate_self number inside, if_pos rfl]
      rfl
    · rw [registry.generationAt_vacate_of_ne number slot same, if_neg same]
      simp
  occupied none lives := by
    have apart : number ≠ slot := by
      intro same
      simp [same] at none
    rwa [registry.occupant?_vacate_of_ne number slot apart]

theorem counts_detachAll (slot : Nat) (handles : List SessionHandle) (host : Host β ι) :
    Counts slot ((ended handles host).countP fun handle => handle.slot = slot) host.registry
      (host.detachAll handles).registry := by
  induction handles generalizing host with
  | nil => exact .refl slot host.registry
  | cons handle rest ih =>
    have later := ih (host.detach handle).2
    simp only [ended, detachAll, List.foldl_cons] at later ⊢
    cases live : host.registry.entry? handle with
    | none =>
      rw [host.detach_of_stale handle live] at later ⊢
      exact later
    | some entry =>
      rw [host.detach_of_entry? handle entry live] at later ⊢
      have lives := ((host.registry.entry?_eq_some_iff handle entry).mp live).1
      have first := counts_vacate slot handle.slot host.registry
        (host.registry.lt_capacity_of_occupant? _ _ lives)
      have both := first.trans later
      simp only [if_true, List.countP_cons, decide_eq_true_eq]
      rwa [Nat.add_comm] at both

theorem counts_attach (slot : Nat) (host : Host β ι) (device : DeviceInfo) :
    Counts slot 0 host.registry (host.attach device).2.registry := by
  rcases host.attach_cases device with ⟨_, _, same⟩ | ⟨_, _, _, _, same⟩ | ⟨berth, _, found, _, same⟩
  · rw [same]
    exact .refl slot host.registry
  · rw [same]
    exact .refl slot host.registry
  · rw [same]
    have free := (host.registry.berthFor_eq_ok device berth found).2
    exact counts_occupy slot _ _ _ (host.registry.freeHandle?_eq_some _ free).1

theorem counts_step (slot : Nat) (host : Host β ι) (step : HostStep β ι) :
    Counts slot (host.endedIn slot step) host.registry (host.step step).registry := by
  cases step with
  | outside change => exact .refl slot host.registry
  | call call =>
    cases call with
    | attach device => exact counts_attach slot host device
    | announce device => exact counts_attach slot host device
    | detach handle => exact counts_detachAll slot [handle] host
    | detachDevice device =>
      have all := counts_detachAll slot (host.registry.findDevice? device).toList host
      simp only [endedIn, HostCall.detaches, step, Host.call, detachDevice]
      cases found : host.registry.findDevice? device with
      | none => exact .refl slot host.registry
      | some handle =>
        rw [found] at all
        exact all
    | shutdown => exact counts_detachAll slot host.registry.handles host
    | poll handle =>
      simp only [step, Host.call]
      cases live : host.registry.entry? handle with
      | none =>
        rw [host.poll_of_stale handle live]
        exact .refl slot host.registry
      | some entry =>
        rw [host.poll_of_entry? handle entry live]
        have lives := ((host.registry.entry?_eq_some_iff handle entry).mp live).1
        exact counts_occupy slot _ _ _ (host.registry.lt_capacity_of_occupant? _ _ lives)
    | bind binding =>
      obtain ⟨keyMap, same⟩ := host.bind_snd binding
      simp only [step, Host.call, same]
      exact
        { capacity := rfl
          generation := (Counts.refl slot host.registry).generation
          occupied := fun _ => id }

theorem counts_run (slot : Nat) (steps : List (HostStep β ι)) (host : Host β ι) :
    Counts slot (host.detachCount slot steps) host.registry (host.run steps).registry := by
  induction steps generalizing host with
  | nil => exact .refl slot host.registry
  | cons step rest ih => exact (counts_step slot host step).trans (ih (host.step step))

/-- A handle that was current is live again after every 2^32 detaches. -/
theorem Counts.contains_iff {handle : SessionHandle} {count : Nat} {before after : Registry}
    (counts : Counts handle.slot count before after)
    (current : before.generationAt handle.slot = handle.generation) :
    after.contains handle = true ↔
      (after.handleAt? handle.slot).isSome = true ∧ 2 ^ 32 ∣ count := by
  have returns : after.generationAt handle.slot = handle.generation ↔ 2 ^ 32 ∣ count := by
    rw [counts.generation, current, UInt32.add_eq_left, ← UInt32.toNat_inj, UInt32.toNat_ofNat',
      Nat.dvd_iff_mod_eq_zero]
    rfl
  rw [Registry.contains_iff, returns, Registry.handleAt?_eq, Option.isSome_map]

theorem attach_eq_ok (host : Host β ι) (device : DeviceInfo) (handle : SessionHandle)
    (issued : (host.attach device).1 = .ok handle) :
    host.registry.occupant? handle.slot = none ∧
      handle.generation = host.registry.generationAt handle.slot ∧
      (host.attach device).2.registry.contains handle = true := by
  rcases host.attach_cases device with ⟨_, _, same⟩ | ⟨_, _, _, _, same⟩ | ⟨berth, _, found, _, same⟩
  · rw [same] at issued
    cases issued
  · rw [same] at issued
    cases issued
  · rw [same] at issued ⊢
    cases issued
    have free := (host.registry.berthFor_eq_ok device berth found).2
    obtain ⟨inside, empty, -, current⟩ := host.registry.freeHandle?_eq_some _ free
    refine ⟨empty, current, ?_⟩
    rw [Registry.contains_iff]
    simp only [settle]
    rw [Registry.occupant?_occupy_self _ _ _ inside, Registry.generationAt_occupy]
    exact ⟨rfl, current.symm⟩

/-- A handle that is not live reaches nothing, whatever slot and generation it names. -/
theorem stale_handle_reaches_nothing (host : Host β ι) (handle : SessionHandle)
    (stale : host.registry.contains handle = false) :
    host.poll handle = (.error (.staleHandle handle), host) ∧
      host.registry.modifiers handle = .error (.staleHandle handle) ∧
      host.registry.session? handle = none ∧ host.registry.name? handle = none ∧
      host.detach handle = (false, host) := by
  have none : host.registry.entry? handle = none := by
    simpa [Registry.contains] using stale
  refine ⟨host.poll_of_stale handle none, ?_, ?_, ?_, host.detach_of_stale handle none⟩
  · simp only [Registry.modifiers, Registry.session?, none, Option.map_none]
  · simp only [Registry.session?, none, Option.map_none]
  · simp only [Registry.name?, none, Option.map_none]

/-- For every run, a handle that an attachment gave is live at a later moment exactly if its slot is
occupied and has seen a multiple of 2^32 detaches since. While it has seen fewer, the handle is
live until the first of them, is not given again, and does not reach the next session of the
slot. A handle that is not live reaches nothing, over any bus and input layer; those that keep a
record of their calls stay as they are too, so there is no call. -/
theorem handle_live_iff_detaches (settings : RegistrySettings) (keyMap : KeyMap) (bus : β) (inputs : ι)
    (before after : List (HostStep β ι)) (device : DeviceInfo) (handle : SessionHandle)
    (issued : (((create settings keyMap bus inputs).run before).attach device).1 = .ok handle) :
    let opened := (((create settings keyMap bus inputs).run before).attach device).2
    let later := opened.run after
    let detaches := opened.detachCount handle.slot after
    (later.registry.contains handle = true ↔
      (later.registry.handleAt? handle.slot).isSome = true ∧ 2 ^ 32 ∣ detaches) ∧
    (detaches < 2 ^ 32 →
      (later.registry.contains handle = true ↔ detaches = 0) ∧
      ∀ other next, (later.attach other).1 = .ok next →
        next ≠ handle ∧
        (next.slot = handle.slot → (later.attach other).2.registry.contains handle = false)) ∧
    ∀ (γ κ : Type) [Bus γ] [InputLayer κ] (host : Host γ κ) (stale : SessionHandle),
      host.registry.contains stale = false →
      host.poll stale = (.error (.staleHandle stale), host) ∧
      host.registry.modifiers stale = .error (.staleHandle stale) ∧
      host.registry.session? stale = none ∧ host.registry.name? stale = none ∧
      host.detach stale = (false, host) := by
  intro opened later detaches
  obtain ⟨-, -, live⟩ := attach_eq_ok _ device handle issued
  obtain ⟨occupied, current⟩ := (Registry.contains_iff _ _).mp live
  have counts : Counts handle.slot detaches opened.registry later.registry :=
    counts_run handle.slot after opened
  have exactCount := counts.contains_iff current
  refine ⟨exactCount, fun few => ?_, fun _ _ _ _ host => stale_handle_reaches_nothing host⟩
  have first : later.registry.contains handle = true ↔ detaches = 0 := by
    rw [exactCount]
    constructor
    · intro ⟨_, multiple⟩
      exact Nat.eq_zero_of_dvd_of_lt multiple few
    · intro none
      rw [Registry.handleAt?_eq, Option.isSome_map]
      exact ⟨counts.occupied none occupied, none ▸ Nat.dvd_zero _⟩
  refine ⟨first, fun other next given => ?_⟩
  obtain ⟨empty, -, reached⟩ := attach_eq_ok later other next given
  have unreached : next.slot = handle.slot →
      (later.attach other).2.registry.contains handle = false := by
    intro slot
    apply Bool.eq_false_iff.mpr
    intro revived
    have multiple := ((counts.trans (counts_attach _ later other)).contains_iff current).mp revived
    have none := Nat.eq_zero_of_dvd_of_lt multiple.2 few
    have still := counts.occupied none occupied
    rw [← slot, empty] at still
    cases still
  refine ⟨fun same => ?_, unreached⟩
  have gone := unreached (congrArg SessionHandle.slot same)
  rw [← same, reached] at gone
  cases gone

theorem handle_gone_after_detach :
    let bus := ({} : ReplayBus).plug ⟨7⟩
    let pad : DeviceInfo :=
      { id := ⟨7⟩, vendor := 0x046d, product := 0xc216, endpoints := [.interruptIn 1] }
    let host : Host ReplayBus SourceList := create {} .empty bus {}
    let detach : HostStep ReplayBus SourceList := .call (.detach { slot := 0, generation := 0 })
    (host.attach pad).1 = .ok { slot := 0, generation := 0 } ∧
      ((host.attach pad).2.run [detach]).registry.contains { slot := 0, generation := 0 } = false := by
  intro bus pad host detach
  have issued : (host.attach pad).1 = .ok { slot := 0, generation := 0 } := rfl
  have lives := handle_live_iff_detaches {} .empty bus {} [] [detach] pad _ issued
  refine ⟨issued, Bool.eq_false_iff.mpr fun live => ?_⟩
  have count := (lives.2.1 (by decide +kernel)).1.mp live
  revert count
  decide +kernel

end Host

end Gamepad
