import Gamepad.KeyQueue
import Mathlib.Data.Nat.ModEq

/-!
The queue of keys seen as a list. Every operation on the ring of slots is the plain operation on
the list of the waiting keys, where a list that has grown too long loses its first or last key.
-/

namespace Gamepad.KeyQueue

variable {capacity : Nat}

/-- The list after one more key has come. What is too much for the capacity goes at the front or
at the back, as the policy says. -/
def boundedPush (capacity : Nat) (policy : OverflowPolicy) (keys : List KeyCode) (key : KeyCode) :
    List KeyCode :=
  let longer := keys ++ [key]
  if longer.length ≤ capacity then longer
  else
    match policy with
    | .dropOldest => longer.tail
    | .dropNewest => longer.dropLast

def boundedPushAll (capacity : Nat) (policy : OverflowPolicy) (keys added : List KeyCode) :
    List KeyCode :=
  added.foldl (boundedPush capacity policy) keys

theorem slot_injective (queue : KeyQueue capacity) (positive : 0 < capacity) (first second : Nat)
    (firstFits : first < capacity) (secondFits : second < capacity)
    (same : queue.slot first positive = queue.slot second positive) : first = second := by
  have values : queue.start + first ≡ queue.start + second [MOD capacity] :=
    congrArg Fin.val same
  exact (values.add_left_cancel' queue.start).eq_of_lt_of_lt firstFits secondFits

theorem getElem?_set_slot (queue : KeyQueue capacity) (positive : 0 < capacity) (first second : Nat)
    (firstFits : first < capacity) (secondFits : second < capacity) (key : KeyCode) :
    (queue.slots.set (queue.slot first positive) key (queue.slot first positive).isLt)[(queue.start + second) % capacity]? =
      if first = second then some key else queue.slots[(queue.start + second) % capacity]? := by
  by_cases same : first = second
  · subst same
    simp [slot]
  · have apart : (queue.slot first positive).val ≠ (queue.start + second) % capacity :=
      fun equal => same (queue.slot_injective positive first second firstFits secondFits (Fin.ext equal))
    rw [if_neg same, Vector.getElem?_set_ne _ apart]

theorem toList_push_room (queue : KeyQueue capacity) (key : KeyCode)
    (room : queue.size < capacity) : (queue.push key).toList = queue.toList ++ [key] := by
  have positive : 0 < capacity := Nat.zero_lt_of_lt room
  apply List.ext_getElem?
  intro place
  rw [getElem?_toList, List.getElem?_append, getElem?_toList, length_toList]
  simp only [push, dif_pos positive, dif_pos room]
  rcases Nat.lt_trichotomy place queue.size with before | same | after
  · rw [queue.getElem?_set_slot positive _ _ room (by omega)]
    simp only [before, if_true, if_neg (Nat.ne_of_gt before), Nat.lt_succ_of_lt before]
  · subst same
    rw [queue.getElem?_set_slot positive _ _ room room]
    simp
  · rw [if_neg (by omega), if_neg (by omega), List.getElem?_singleton, if_neg (by omega)]

theorem toList_push_dropOldest (queue : KeyQueue capacity) (key : KeyCode) (positive : 0 < capacity)
    (full : queue.size = capacity) (policy : queue.policy = .dropOldest) :
    (queue.push key).toList = (queue.toList ++ [key]).tail := by
  have wraps : queue.slot capacity positive = queue.slot 0 positive := by
    apply Fin.ext
    simp [slot]
  apply List.ext_getElem?
  intro place
  have moved : ((queue.slot 1 positive).val + place) % capacity =
      (queue.start + (place + 1)) % capacity := by
    simp only [slot, Nat.mod_add_mod, Nat.add_assoc, Nat.add_comm 1]
  rw [getElem?_toList, List.getElem?_tail, List.getElem?_append, getElem?_toList, length_toList]
  simp only [push, dif_pos positive, full, Nat.lt_irrefl, ↓reduceDIte, policy, moved, wraps]
  rcases Nat.lt_trichotomy (place + 1) capacity with before | last | after
  · rw [queue.getElem?_set_slot positive 0 (place + 1) positive before]
    simp only [before, Nat.lt_of_succ_lt before, if_true, if_neg (Nat.zero_ne_add_one place)]
  · have back : (queue.start + (place + 1)) % capacity = (queue.start + 0) % capacity := by
      rw [last, Nat.add_mod_right, Nat.add_zero]
    rw [back, queue.getElem?_set_slot positive 0 0 positive positive]
    simp only [last, if_true, Nat.lt_irrefl, if_false, Nat.sub_self, if_pos (show place < capacity by omega)]
    rfl
  · rw [if_neg (by omega), if_neg (by omega), List.getElem?_singleton, if_neg (by omega)]

theorem toList_push_dropNewest (queue : KeyQueue capacity) (key : KeyCode)
    (full : queue.size = capacity) (policy : queue.policy = .dropNewest) :
    (queue.push key).toList = queue.toList := by
  unfold push
  split
  · rw [dif_neg (by omega)]
    simp only [policy]
    rfl
  · rfl

theorem toList_eq_nil (queue : KeyQueue capacity) (none : capacity = 0) : queue.toList = [] := by
  rw [← List.length_eq_zero_iff, length_toList]
  exact Nat.le_zero.mp (none ▸ queue.size_le)

theorem policy_push (queue : KeyQueue capacity) (key : KeyCode) :
    (queue.push key).policy = queue.policy := by
  unfold push
  split
  · dsimp only
    split
    · rfl
    · split <;> simp_all
  · rfl

/-- Putting a key into the ring is putting it at the end of the bounded list. -/
theorem toList_push (queue : KeyQueue capacity) (key : KeyCode) :
    (queue.push key).toList = boundedPush capacity queue.policy queue.toList key := by
  have bound := queue.size_le
  simp only [boundedPush, List.length_append, List.length_singleton, length_toList]
  rcases Nat.lt_or_eq_of_le bound with room | full
  · rw [if_pos (by omega), toList_push_room queue key room]
  · rw [if_neg (by omega)]
    cases policy : queue.policy with
    | dropNewest => simp only [toList_push_dropNewest queue key full policy, List.dropLast_concat]
    | dropOldest =>
      rcases Nat.eq_zero_or_pos capacity with none | positive
      · subst none
        rw [toList_eq_nil _ rfl, toList_eq_nil queue rfl]
        rfl
      · exact toList_push_dropOldest queue key positive full policy

theorem toList_pushAll (queue : KeyQueue capacity) (keys : List KeyCode) :
    (queue.pushAll keys).toList = boundedPushAll capacity queue.policy queue.toList keys ∧
      (queue.pushAll keys).policy = queue.policy := by
  induction keys generalizing queue with
  | nil => exact ⟨rfl, rfl⟩
  | cons key rest ih =>
    simp only [pushAll, boundedPushAll, List.foldl_cons] at ih ⊢
    rw [(ih (queue.push key)).1, (ih (queue.push key)).2, toList_push, policy_push]
    exact ⟨rfl, rfl⟩

theorem policy_pop (queue : KeyQueue capacity) : queue.pop.2.policy = queue.policy := by
  unfold pop
  split <;> rfl

theorem pop_fst (queue : KeyQueue capacity) : queue.pop.1 = queue.toList.head? := by
  rw [List.head?_eq_getElem?, getElem?_toList]
  unfold pop
  split
  next waiting =>
    have positive : 0 < capacity := Nat.lt_of_lt_of_le waiting queue.size_le
    simp only [slot, Fin.getElem_fin, Vector.getElem?_eq_getElem (Nat.mod_lt _ positive)]
  next => rfl

theorem toList_pop (queue : KeyQueue capacity) : queue.pop.2.toList = queue.toList.tail := by
  apply List.ext_getElem?
  intro place
  rw [getElem?_toList, List.getElem?_tail, getElem?_toList]
  unfold pop
  split
  next waiting =>
    have moved : ((queue.start + 1) % capacity + place) % capacity =
        (queue.start + (place + 1)) % capacity := by
      rw [Nat.mod_add_mod, Nat.add_assoc, Nat.add_comm 1]
    simp only [slot, moved, Nat.lt_sub_iff_add_lt]
  next empty => rw [if_neg (show ¬place < queue.size by omega), if_neg (by omega)]

/-! ## Counts

How many keys wait and how many were lost is the same under both policies, whatever the keys are. -/

theorem counts_push (queue : KeyQueue capacity) (key : KeyCode) :
    (queue.push key).size = min capacity (queue.size + 1) ∧
      (queue.push key).dropped = queue.dropped + (queue.size + 1 - capacity) := by
  have bound := queue.size_le
  unfold push
  split
  next positive =>
    dsimp only
    split
    next room =>
      refine ⟨(Nat.min_eq_right room).symm, ?_⟩
      change queue.dropped = _
      omega
    next full =>
      cases queue.policy <;> exact ⟨by dsimp only; omega, by dsimp only; omega⟩
  next unslotted => exact ⟨by dsimp only; omega, by dsimp only; omega⟩

theorem counts_pushAll (queue : KeyQueue capacity) (keys : List KeyCode) :
    (queue.pushAll keys).size = min capacity (queue.size + keys.length) ∧
      (queue.pushAll keys).dropped = queue.dropped + (queue.size + keys.length - capacity) := by
  have bound := queue.size_le
  induction keys generalizing queue with
  | nil =>
    change queue.size = min capacity queue.size ∧
      queue.dropped = queue.dropped + (queue.size - capacity)
    omega
  | cons key rest ih =>
    obtain ⟨size, dropped⟩ := ih (queue.push key) (queue.push key).size_le
    rw [(queue.counts_push key).1] at size dropped
    rw [(queue.counts_push key).2] at dropped
    change ((queue.push key).pushAll rest).size = _ ∧ ((queue.push key).pushAll rest).dropped = _
    rw [size, dropped, List.length_cons]
    omega

theorem counts_pop (queue : KeyQueue capacity) :
    queue.pop.2.size = queue.size - 1 ∧ queue.pop.2.dropped = queue.dropped := by
  unfold pop
  split
  next waiting => exact ⟨rfl, rfl⟩
  next empty =>
    refine ⟨?_, rfl⟩
    change queue.size = queue.size - 1
    omega

theorem isSome_pop (queue : KeyQueue capacity) : queue.pop.1.isSome = decide (0 < queue.size) := by
  unfold pop
  split
  next waiting => exact (decide_eq_true waiting).symm
  next empty => exact (decide_eq_false empty).symm

end Gamepad.KeyQueue
