import Gamepad.Proofs.BoundedQueue
import Mathlib.Data.List.Perm.Basic

/-!
Whole runs of a queue of any capacity. The ring is compared with a plain list, which also keeps the
keys that it loses, and with a ring in which every index and every remainder is checked when it is
used. Main statement: any calls bring the same answers and the same counts as the list, no check of
the ring ever fails, and every key that was pushed was handed out, still waits or was lost. What is
counted has no bound here, and fits into words of 64 bits in every run that is not too long.
-/

namespace Gamepad

inductive QueueCall
  | push (key : KeyCode)
  | pop
  | peek
deriving DecidableEq, Repr

/-- One call and what is seen of it: its answer, where a push gives no key, and what the queue
tells of itself afterwards. -/
structure QueueTurn where
  call : QueueCall
  answer : Option KeyCode
  length : Nat
  isEmpty : Bool
  isFull : Bool
  dropped : Nat
deriving DecidableEq, Repr

namespace QueueTurn

def pushed (turn : QueueTurn) : List KeyCode :=
  match turn.call with
  | .push key => [key]
  | _ => []

def popped (turn : QueueTurn) : List KeyCode :=
  match turn.call with
  | .pop => turn.answer.toList
  | _ => []

end QueueTurn

namespace KeyQueue

variable {capacity : Nat}

def call (queue : KeyQueue capacity) : QueueCall → Option KeyCode × KeyQueue capacity
  | .push key => (none, queue.push key)
  | .pop => queue.pop
  | .peek => (queue.peek?, queue)

def turn (queue : KeyQueue capacity) (call : QueueCall) (answer : Option KeyCode) : QueueTurn where
  call
  answer
  length := queue.size
  isEmpty := queue.isEmpty
  isFull := queue.isFull
  dropped := queue.dropped

def callAll : List QueueCall → KeyQueue capacity → List QueueTurn × KeyQueue capacity
  | [], queue => ([], queue)
  | call :: rest, queue =>
    let (answer, queue) := queue.call call
    let (turns, last) := callAll rest queue
    (queue.turn call answer :: turns, last)

end KeyQueue

/-! ## The plain list -/

/-- The key that goes when one more key has come and the list is too long. -/
def KeyQueue.overflow (capacity : Nat) (policy : OverflowPolicy) (keys : List KeyCode)
    (key : KeyCode) : List KeyCode :=
  let longer := keys ++ [key]
  if longer.length ≤ capacity then []
  else
    match policy with
    | .dropOldest => longer.head?.toList
    | .dropNewest => longer.getLast?.toList

theorem KeyQueue.boundedPush_append_overflow_perm (capacity : Nat) (policy : OverflowPolicy)
    (keys : List KeyCode) (key : KeyCode) :
    (boundedPush capacity policy keys key ++ overflow capacity policy keys key).Perm
      (keys ++ [key]) := by
  unfold boundedPush overflow
  dsimp only
  split
  · rw [List.append_nil]
  · cases policy with
    | dropOldest =>
      cases keys with
      | nil => exact .refl _
      | cons first others => exact List.perm_append_singleton first (others ++ [key])
    | dropNewest =>
      rw [List.dropLast_concat, List.getLast?_concat]
      exact .refl _

structure PlainQueue where
  keys : List KeyCode := []
  lost : List KeyCode := []

namespace PlainQueue

def push (capacity : Nat) (policy : OverflowPolicy) (plain : PlainQueue) (key : KeyCode) :
    PlainQueue where
  keys := KeyQueue.boundedPush capacity policy plain.keys key
  lost := plain.lost ++ KeyQueue.overflow capacity policy plain.keys key

def call (capacity : Nat) (policy : OverflowPolicy) (plain : PlainQueue) :
    QueueCall → Option KeyCode × PlainQueue
  | .push key => (none, plain.push capacity policy key)
  | .pop => (plain.keys.head?, { plain with keys := plain.keys.tail })
  | .peek => (plain.keys.head?, plain)

def turn (capacity : Nat) (plain : PlainQueue) (call : QueueCall) (answer : Option KeyCode) :
    QueueTurn where
  call
  answer
  length := plain.keys.length
  isEmpty := plain.keys.isEmpty
  isFull := plain.keys.length = capacity
  dropped := plain.lost.length

def callAll (capacity : Nat) (policy : OverflowPolicy) :
    List QueueCall → PlainQueue → List QueueTurn × PlainQueue
  | [], plain => ([], plain)
  | call :: rest, plain =>
    let (answer, plain) := plain.call capacity policy call
    let (turns, last) := callAll capacity policy rest plain
    (plain.turn capacity call answer :: turns, last)

open scoped List in
theorem perm_push (capacity : Nat) (policy : OverflowPolicy) (plain : PlainQueue) (key : KeyCode) :
    (key :: (plain.keys ++ plain.lost)).Perm
      ((plain.push capacity policy key).keys ++ (plain.push capacity policy key).lost) := by
  have kept := KeyQueue.boundedPush_append_overflow_perm capacity policy plain.keys key
  unfold push
  generalize KeyQueue.boundedPush capacity policy plain.keys key = keys at kept ⊢
  generalize KeyQueue.overflow capacity policy plain.keys key = gone at kept ⊢
  calc key :: (plain.keys ++ plain.lost)
    _ ~ (plain.keys ++ [key]) ++ plain.lost :=
      (List.perm_append_singleton key plain.keys).symm.append_right plain.lost
    _ ~ keys ++ gone ++ plain.lost := kept.symm.append_right plain.lost
    _ = keys ++ (gone ++ plain.lost) := List.append_assoc ..
    _ ~ keys ++ (plain.lost ++ gone) := List.perm_append_comm.append_left keys

theorem perm_call (capacity : Nat) (policy : OverflowPolicy) (plain : PlainQueue)
    (call : QueueCall) (answer : Option KeyCode) (after : PlainQueue)
    (called : plain.call capacity policy call = (answer, after)) :
    ((after.turn capacity call answer).pushed ++ (plain.keys ++ plain.lost)).Perm
      ((after.turn capacity call answer).popped ++ (after.keys ++ after.lost)) := by
  cases call with
  | push key =>
    cases called
    exact plain.perm_push capacity policy key
  | pop =>
    cases called
    cases keys : plain.keys with
    | nil => exact .refl _
    | cons first others => exact .refl _
  | peek =>
    cases called
    exact .refl _

open scoped List in
/-- Along a run every key that waited or came was handed out, still waits or is lost. -/
theorem perm_callAll (capacity : Nat) (policy : OverflowPolicy) (calls : List QueueCall)
    (plain : PlainQueue) :
    ((plain.callAll capacity policy calls).1.flatMap QueueTurn.pushed ++
        (plain.keys ++ plain.lost)).Perm
      ((plain.callAll capacity policy calls).1.flatMap QueueTurn.popped ++
        ((plain.callAll capacity policy calls).2.keys ++
          (plain.callAll capacity policy calls).2.lost)) := by
  induction calls generalizing plain with
  | nil => exact .refl _
  | cons call rest ih =>
    cases called : plain.call capacity policy call with
    | mk answer after =>
      have here := plain.perm_call capacity policy call answer after called
      have further := ih after
      simp only [callAll, called, List.flatMap_cons, List.append_assoc]
      generalize (after.turn capacity call answer).pushed = came at here ⊢
      generalize (after.turn capacity call answer).popped = went at here ⊢
      generalize after.callAll capacity policy rest = later at further ⊢
      calc came ++ (later.1.flatMap QueueTurn.pushed ++ (plain.keys ++ plain.lost))
        _ ~ later.1.flatMap QueueTurn.pushed ++ (came ++ (plain.keys ++ plain.lost)) :=
          List.perm_append_comm_assoc ..
        _ ~ later.1.flatMap QueueTurn.pushed ++ (went ++ (after.keys ++ after.lost)) :=
          here.append_left _
        _ ~ went ++ (later.1.flatMap QueueTurn.pushed ++ (after.keys ++ after.lost)) :=
          List.perm_append_comm_assoc ..
        _ ~ went ++ (later.1.flatMap QueueTurn.popped ++ (later.2.keys ++ later.2.lost)) :=
          further.append_left _

end PlainQueue

namespace KeyQueue

variable {capacity : Nat}

structure Shows (queue : KeyQueue capacity) (policy : OverflowPolicy) (plain : PlainQueue) :
    Prop where
  keys : queue.toList = plain.keys
  dropped : queue.dropped = plain.lost.length
  policy : queue.policy = policy

theorem peek?_eq_head? (queue : KeyQueue capacity) : queue.peek? = queue.toList.head? := by
  rw [← pop_fst]
  unfold peek? pop
  split <;> rfl

theorem shows_empty (policy : OverflowPolicy) :
    (empty policy : KeyQueue capacity).Shows policy {} where
  keys := toList_empty policy
  dropped := rfl
  policy := rfl

section

variable {queue : KeyQueue capacity} {policy : OverflowPolicy} {plain : PlainQueue}

theorem Shows.push (shows : queue.Shows policy plain) (key : KeyCode) :
    (queue.push key).Shows policy (plain.push capacity policy key) := by
  have bound := queue.size_le
  have keys : (queue.push key).toList = boundedPush capacity policy plain.keys key := by
    rw [toList_push, shows.keys, shows.policy]
  have waiting : (boundedPush capacity policy plain.keys key).length =
      min capacity (queue.size + 1) := by
    rw [← keys, length_toList, (queue.counts_push key).1]
  have all := (boundedPush_append_overflow_perm capacity policy plain.keys key).length_eq
  rw [List.length_append, List.length_append, waiting, ← shows.keys, length_toList,
    List.length_singleton] at all
  refine { keys, dropped := ?_, policy := (queue.policy_push key).trans shows.policy }
  change (queue.push key).dropped =
    (plain.lost ++ overflow capacity policy plain.keys key).length
  rw [(queue.counts_push key).2, shows.dropped, List.length_append, ← shows.keys]
  omega

theorem Shows.call (shows : queue.Shows policy plain) (call : QueueCall) :
    (queue.call call).1 = (plain.call capacity policy call).1 ∧
      (queue.call call).2.Shows policy (plain.call capacity policy call).2 := by
  cases call with
  | push key => exact ⟨rfl, shows.push key⟩
  | pop =>
    refine ⟨queue.pop_fst.trans (congrArg List.head? shows.keys), ?_⟩
    exact
      { keys := queue.toList_pop.trans (congrArg List.tail shows.keys)
        dropped := queue.counts_pop.2.trans shows.dropped
        policy := queue.policy_pop.trans shows.policy }
  | peek => exact ⟨queue.peek?_eq_head?.trans (congrArg List.head? shows.keys), shows⟩

theorem Shows.turn (shows : queue.Shows policy plain) (call : QueueCall)
    (answer : Option KeyCode) : queue.turn call answer = plain.turn capacity call answer := by
  have length : plain.keys.length = queue.size := by rw [← shows.keys, length_toList]
  unfold KeyQueue.turn PlainQueue.turn
  rw [length, shows.dropped, isEmpty, isFull]
  congr 1
  rw [Bool.eq_iff_iff, List.isEmpty_iff, decide_eq_true_iff, ← length, List.length_eq_zero_iff]

theorem Shows.callAll (shows : queue.Shows policy plain) (calls : List QueueCall) :
    (queue.callAll calls).1 = (plain.callAll capacity policy calls).1 ∧
      (queue.callAll calls).2.Shows policy (plain.callAll capacity policy calls).2 := by
  induction calls generalizing queue plain with
  | nil => exact ⟨rfl, shows⟩
  | cons call rest ih =>
    obtain ⟨answers, next⟩ := shows.call call
    obtain ⟨turns, last⟩ := ih next
    have turn : (queue.call call).2.turn call (queue.call call).1 =
        (plain.call capacity policy call).2.turn capacity call
          (plain.call capacity policy call).1 := by rw [answers, next.turn]
    exact ⟨congrArg₂ List.cons turn turns, last⟩

end

end KeyQueue

/-! ## The ring with its checks -/

/-- A ring of slots as plain numbers, of which nothing says that they fit. -/
structure CheckedRing where
  slots : List KeyCode
  start : Nat
  size : Nat
  policy : OverflowPolicy
  dropped : Nat
deriving DecidableEq, Repr

namespace CheckedRing

def fresh (capacity : Nat) (policy : OverflowPolicy) : CheckedRing where
  slots := .replicate capacity .unbound
  start := 0
  size := 0
  policy
  dropped := 0

def remainder? (number divisor : Nat) : Option Nat :=
  if divisor = 0 then none else some (number % divisor)

def write? (slots : List KeyCode) (index : Nat) (key : KeyCode) : Option (List KeyCode) :=
  if index < slots.length then some (slots.set index key) else none

def push? (ring : CheckedRing) (key : KeyCode) : Option CheckedRing :=
  let capacity := ring.slots.length
  if capacity = 0 then some { ring with dropped := ring.dropped + 1 }
  else do
    let last ← remainder? (ring.start + ring.size) capacity
    if ring.size < capacity then
      let slots ← write? ring.slots last key
      return { ring with slots, size := ring.size + 1 }
    else
      match ring.policy with
      | .dropOldest =>
        let slots ← write? ring.slots last key
        let start ← remainder? (ring.start + 1) capacity
        return { ring with slots, start, dropped := ring.dropped + 1 }
      | .dropNewest => return { ring with dropped := ring.dropped + 1 }

def pop? (ring : CheckedRing) : Option (Option KeyCode × CheckedRing) :=
  if ring.size = 0 then some (none, ring)
  else do
    let key ← ring.slots[ring.start]?
    let start ← remainder? (ring.start + 1) ring.slots.length
    return (some key, { ring with start, size := ring.size - 1 })

def peek? (ring : CheckedRing) : Option (Option KeyCode × CheckedRing) :=
  if ring.size = 0 then some (none, ring)
  else do
    let key ← ring.slots[ring.start]?
    return (some key, ring)

def call? (ring : CheckedRing) : QueueCall → Option (Option KeyCode × CheckedRing)
  | .push key => do
    let ring ← ring.push? key
    return (none, ring)
  | .pop => ring.pop?
  | .peek => ring.peek?

def callAll? : List QueueCall → CheckedRing → Option (List (Option KeyCode) × CheckedRing)
  | [], ring => some ([], ring)
  | call :: rest, ring => do
    let (answer, ring) ← ring.call? call
    let (answers, last) ← callAll? rest ring
    return (answer :: answers, last)

theorem remainder?_of_pos (number : Nat) {divisor : Nat} (positive : 0 < divisor) :
    remainder? number divisor = some (number % divisor) :=
  if_neg (Nat.ne_of_gt positive)

end CheckedRing

namespace KeyQueue

variable {capacity : Nat} (queue : KeyQueue capacity)

def ring : CheckedRing where
  slots := queue.slots.toList
  start := queue.start
  size := queue.size
  policy := queue.policy
  dropped := queue.dropped

theorem length_slots_ring : queue.ring.slots.length = capacity := queue.slots.length_toList

theorem write?_slot (place : Nat) (positive : 0 < capacity) (key : KeyCode) :
    CheckedRing.write? queue.ring.slots ((queue.start + place) % capacity) key =
      some (queue.slots.set (queue.slot place positive) key
        (queue.slot place positive).isLt).toList := by
  have inside : (queue.start + place) % capacity < queue.ring.slots.length := by
    rw [length_slots_ring]
    exact Nat.mod_lt _ positive
  rw [CheckedRing.write?, if_pos inside, Vector.toList_set]
  rfl

theorem push?_ring (key : KeyCode) : queue.ring.push? key = some (queue.push key).ring := by
  have size : queue.ring.size = queue.size := rfl
  have start : queue.ring.start = queue.start := rfl
  have policy : queue.ring.policy = queue.policy := rfl
  rcases Nat.eq_zero_or_pos capacity with unslotted | positive
  · simp only [CheckedRing.push?, length_slots_ring, if_pos unslotted, push,
      dif_neg (Nat.not_lt.mpr (Nat.le_of_eq unslotted))]
    rfl
  · have last := CheckedRing.remainder?_of_pos (queue.start + queue.size) positive
    have second := CheckedRing.remainder?_of_pos (queue.start + 1) positive
    have written := queue.write?_slot queue.size positive key
    simp only [CheckedRing.push?, length_slots_ring, if_neg (Nat.ne_of_gt positive), size, start,
      policy, last, second, written, Option.bind_eq_bind, Option.bind_some, push, dif_pos positive]
    by_cases room : queue.size < capacity
    · rw [if_pos room, dif_pos room]
      rfl
    · rw [if_neg room, dif_neg room]
      cases queue.policy <;> rfl

theorem read?_ring (waiting : 0 < queue.size) :
    queue.ring.slots[queue.ring.start]? = queue.peek? := by
  have positive : 0 < capacity := Nat.lt_of_lt_of_le waiting queue.size_le
  rw [peek?_eq_head?, List.head?_eq_getElem?, getElem?_toList, if_pos waiting, Nat.add_zero,
    Nat.mod_eq_of_lt (queue.start_lt positive)]
  exact Vector.getElem?_toList

theorem peek?_of_waiting (waiting : 0 < queue.size) : ∃ key, queue.peek? = some key :=
  ⟨_, dif_pos waiting⟩

theorem pop?_ring : queue.ring.pop? = some (queue.pop.1, queue.pop.2.ring) := by
  unfold CheckedRing.pop?
  split
  next empty =>
    have none : queue.pop = (none, queue) := dif_neg (Nat.not_lt.mpr (Nat.le_of_eq empty))
    rw [none]
  next occupied =>
    have waiting : 0 < queue.size := Nat.pos_of_ne_zero occupied
    have positive : 0 < capacity := Nat.lt_of_lt_of_le waiting queue.size_le
    obtain ⟨key, first⟩ := queue.peek?_of_waiting waiting
    have answer : queue.pop.1 = some key := by rw [pop_fst, ← peek?_eq_head?, first]
    have start := CheckedRing.remainder?_of_pos (queue.start + 1) positive
    rw [queue.read?_ring waiting, length_slots_ring, first, answer]
    change (CheckedRing.remainder? (queue.start + 1) capacity >>= _) = _
    rw [start]
    unfold pop
    rw [dif_pos waiting]
    rfl

theorem ring_peek? : queue.ring.peek? = some (queue.peek?, queue.ring) := by
  unfold CheckedRing.peek?
  split
  next empty =>
    have none : queue.peek? = none := dif_neg (Nat.not_lt.mpr (Nat.le_of_eq empty))
    rw [none]
  next occupied =>
    have waiting : 0 < queue.size := Nat.pos_of_ne_zero occupied
    obtain ⟨key, first⟩ := queue.peek?_of_waiting waiting
    rw [queue.read?_ring waiting, first]
    rfl

theorem call?_ring (call : QueueCall) :
    queue.ring.call? call = some ((queue.call call).1, (queue.call call).2.ring) := by
  cases call with
  | push key =>
    rw [CheckedRing.call?, push?_ring]
    rfl
  | pop => exact queue.pop?_ring
  | peek => exact queue.ring_peek?

theorem callAll?_ring (calls : List QueueCall) (queue : KeyQueue capacity) :
    queue.ring.callAll? calls =
      some ((queue.callAll calls).1.map QueueTurn.answer, (queue.callAll calls).2.ring) := by
  induction calls generalizing queue with
  | nil => rfl
  | cons call rest ih =>
    rw [CheckedRing.callAll?, call?_ring]
    change (CheckedRing.callAll? rest (queue.call call).2.ring >>= _) = _
    rw [ih]
    rfl

theorem ring_empty (policy : OverflowPolicy) :
    (empty policy : KeyQueue capacity).ring = .fresh capacity policy := by
  simp [ring, empty, CheckedRing.fresh]

theorem dropped_call_le (call : QueueCall) :
    (queue.call call).2.dropped ≤ queue.dropped + 1 := by
  cases call with
  | push key =>
    have bound := queue.size_le
    have counted := (queue.counts_push key).2
    change (queue.push key).dropped ≤ queue.dropped + 1
    omega
  | pop => exact Nat.le_succ_of_le (Nat.le_of_eq queue.counts_pop.2)
  | peek => exact Nat.le_succ _

theorem dropped_callAll_le (calls : List QueueCall) (queue : KeyQueue capacity) :
    (queue.callAll calls).2.dropped ≤ queue.dropped + calls.length := by
  induction calls generalizing queue with
  | nil => exact Nat.le_refl _
  | cons call rest ih =>
    have here := queue.dropped_call_le call
    have further := ih (queue.call call).2
    change ((queue.call call).2.callAll rest).2.dropped ≤ queue.dropped + (rest.length + 1)
    omega

/-- A word of 64 bits can count what is lost as long as there are fewer than `2 ^ 64` calls. -/
theorem toNat_dropped_callAll (policy : OverflowPolicy) (calls : List QueueCall)
    (few : calls.length < 2 ^ 64) :
    let queue := ((empty policy : KeyQueue capacity).callAll calls).2
    (UInt64.ofNat queue.dropped).toNat = queue.dropped := by
  have counted := dropped_callAll_le calls (empty policy : KeyQueue capacity)
  have fresh : (empty policy : KeyQueue capacity).dropped = 0 := rfl
  apply UInt64.toNat_ofNat_of_lt
  change _ < 2 ^ 64
  omega

/-- A queue that starts empty answers any calls as the plain list does and tells the same counts
after each. Its ring passes every check of an index or a remainder and stays within its slots. And
every key that was pushed was handed out, still waits or was lost, so the counts of these add up. -/
theorem runs_as_bounded_list (capacity : Nat) (policy : OverflowPolicy) (calls : List QueueCall) :
    let (turns, queue) := (empty policy : KeyQueue capacity).callAll calls
    let (plainTurns, plain) := PlainQueue.callAll capacity policy calls {}
    let pushed := turns.flatMap QueueTurn.pushed
    let popped := turns.flatMap QueueTurn.popped
    turns = plainTurns ∧ queue.toList = plain.keys ∧ queue.dropped = plain.lost.length ∧
      (CheckedRing.fresh capacity policy).callAll? calls =
        some (turns.map QueueTurn.answer, queue.ring) ∧
      queue.ring.slots.length = capacity ∧ (0 < capacity → queue.ring.start < capacity) ∧
      queue.ring.size ≤ capacity ∧ pushed.Perm (popped ++ (plain.keys ++ plain.lost)) ∧
      pushed.length = popped.length + queue.size + queue.dropped := by
  have start : (empty policy : KeyQueue capacity).Shows policy {} := shows_empty policy
  obtain ⟨turns, shows⟩ := start.callAll calls
  have checked := callAll?_ring calls (empty policy : KeyQueue capacity)
  rw [ring_empty] at checked
  have kept := PlainQueue.perm_callAll capacity policy calls {}
  rw [List.append_nil, List.append_nil, ← turns] at kept
  have counted := kept.length_eq
  rw [List.length_append, List.length_append, ← shows.keys, length_toList, ← shows.dropped,
    ← Nat.add_assoc] at counted
  generalize (empty policy : KeyQueue capacity).callAll calls = run at *
  exact ⟨turns, shows.keys, shows.dropped, checked, run.2.length_slots_ring, run.2.start_lt,
    run.2.size_le, kept, counted⟩

end KeyQueue

end Gamepad
