import Gamepad.Key.Code

/-!
A bounded queue of keys, kept in a ring of slots. A full queue lets the oldest key go or refuses
the new one, as its policy says, and counts the keys lost.
-/

namespace Gamepad

inductive OverflowPolicy
  | dropOldest
  | dropNewest
deriving DecidableEq, Repr

structure KeyQueue (capacity : Nat) where
  slots : Vector KeyCode capacity
  /-- The slot of the oldest key. -/
  start : Nat
  size : Nat
  policy : OverflowPolicy
  /-- How many keys were lost; a word of 64 bits holds the number as long as fewer than 2^64 keys
  come. -/
  dropped : Nat
  start_lt : 0 < capacity → start < capacity
  size_le : size ≤ capacity
deriving DecidableEq, Repr

namespace KeyQueue

variable {capacity : Nat}

def empty (policy : OverflowPolicy) : KeyQueue capacity where
  slots := .replicate capacity .unbound
  start := 0
  size := 0
  policy
  dropped := 0
  start_lt := id
  size_le := Nat.zero_le capacity

def isEmpty (queue : KeyQueue capacity) : Bool := queue.size = 0

def isFull (queue : KeyQueue capacity) : Bool := queue.size = capacity

def slot (queue : KeyQueue capacity) (place : Nat) (positive : 0 < capacity) : Fin capacity :=
  ⟨(queue.start + place) % capacity, Nat.mod_lt _ positive⟩

/-- The waiting keys, oldest first. -/
def toList (queue : KeyQueue capacity) : List KeyCode :=
  (List.finRange queue.size).map fun place : Fin queue.size =>
    queue.slots[queue.slot place (Nat.lt_of_lt_of_le place.pos queue.size_le)]

theorem length_toList (queue : KeyQueue capacity) : queue.toList.length = queue.size := by
  simp [toList]

theorem getElem?_toList (queue : KeyQueue capacity) (place : Nat) :
    queue.toList[place]? =
      if place < queue.size then queue.slots[(queue.start + place) % capacity]? else none := by
  by_cases inside : place < queue.size
  · have positive : 0 < capacity := Nat.lt_of_lt_of_le (Nat.zero_lt_of_lt inside) queue.size_le
    rw [if_pos inside, Vector.getElem?_eq_getElem (Nat.mod_lt _ positive)]
    simp [toList, inside, slot]
  · rw [if_neg inside, List.getElem?_eq_none]
    rw [length_toList]
    omega

theorem toList_empty (policy : OverflowPolicy) :
    (empty policy : KeyQueue capacity).toList = [] := by
  rw [← List.length_eq_zero_iff, length_toList]
  rfl

def push (queue : KeyQueue capacity) (key : KeyCode) : KeyQueue capacity :=
  if positive : 0 < capacity then
    let last := queue.slot queue.size positive
    if room : queue.size < capacity then
      { queue with
        slots := queue.slots.set last key
        size := queue.size + 1
        size_le := room }
    else
      match queue.policy with
      | .dropOldest =>
        { queue with
          slots := queue.slots.set last key
          start := queue.slot 1 positive
          dropped := queue.dropped + 1
          start_lt := fun _ => (queue.slot 1 positive).isLt }
      | .dropNewest => { queue with dropped := queue.dropped + 1 }
  else
    { queue with dropped := queue.dropped + 1 }

def pushAll (queue : KeyQueue capacity) (keys : List KeyCode) : KeyQueue capacity :=
  keys.foldl push queue

def peek? (queue : KeyQueue capacity) : Option KeyCode :=
  if waiting : 0 < queue.size then
    some queue.slots[queue.slot 0 (Nat.lt_of_lt_of_le waiting queue.size_le)]
  else none

def pop (queue : KeyQueue capacity) : Option KeyCode × KeyQueue capacity :=
  if waiting : 0 < queue.size then
    let positive := Nat.lt_of_lt_of_le waiting queue.size_le
    (some queue.slots[queue.slot 0 positive],
      { queue with
        start := queue.slot 1 positive
        size := queue.size - 1
        start_lt := fun _ => (queue.slot 1 positive).isLt
        size_le := Nat.le_trans (Nat.sub_le _ _) queue.size_le })
  else (none, queue)

end KeyQueue

end Gamepad
