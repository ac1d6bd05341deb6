import DmaReadout.Queue.Bounded
import Mathlib.Tactic.Lemma

/-!
# Bounded queues as lists

Through any run of calls, a bounded queue behaves like a list that takes new items at its end while
there are fewer than `capacity` of them, and gives them up at its front. In the ring behind it, the
items stand in consecutive slots, and no call goes to a slot that does not exist.
-/

namespace DmaReadout

variable {α : Type}

/-- A call on a queue. -/
inductive QueueCall (α : Type)
  | push (item : α)
  | pop
  | clear

/-- What a queue answers to a call. -/
inductive QueueAnswer (α : Type)
  | done
  | taken (item : α)
  | refused (refusal : QueueError α)
deriving DecidableEq

namespace QueueCall

/-- A call on the list of the items that a queue of this capacity holds. -/
def onList (capacity : Nat) (items : List α) : QueueCall α → QueueAnswer α × List α
  | .push item =>
    if items.length < capacity then (.done, items ++ [item]) else (.refused (.full item), items)
  | .pop =>
    match items with
    | [] => (.refused .empty, [])
    | item :: rest => (.taken item, rest)
  | .clear => (.done, [])

/-- The answers to calls that are made one after the other, and what is left in the end. -/
def run {σ : Type} (answer : σ → QueueCall α → QueueAnswer α × σ) :
    σ → List (QueueCall α) → List (QueueAnswer α) × σ
  | state, [] => ([], state)
  | state, call :: calls =>
    let answered := answer state call
    let rest := run answer answered.2 calls
    (answered.1 :: rest.1, rest.2)

end QueueCall

namespace RingBuffer

variable {ring : RingBuffer α}

/-- The items stand in the slots from the head on, the oldest first, and all other slots are
vacant. -/
structure Houses (ring : RingBuffer α) (items : List α) : Prop where
  length : ring.length = items.length
  head_lt : 0 < ring.capacity → ring.head < ring.capacity
  occupied : ∀ n item, items[n]? = some item → ring.slots[ring.slot n]? = some (some item)
  vacant : ∀ i < ring.capacity, (∀ n < items.length, ring.slot n ≠ i) →
    ring.slots[i]? = some none

/-- Where a call goes to a slot, there is one: behind the newest item, unless the ring is full, and
at the head and next to it, unless the ring is empty. What is written to was vacant. -/
structure InRange (ring : RingBuffer α) : Prop where
  capacity_pos : ring.length ≠ ring.capacity ∨ ring.length ≠ 0 → 0 < ring.capacity
  back_vacant : ring.length ≠ ring.capacity → ring.slots[ring.slot ring.length]? = some none
  front_occupied : ring.length ≠ 0 → ∃ item, ring.slots[ring.head]? = some (some item)
  slot_lt : ring.length ≠ 0 → ∀ n, ring.slot n < ring.slots.size

lemma WellFormed.item?_of_toList (w : ring.WellFormed) {n : Nat} {item : α}
    (h : ring.toList[n]? = some item) : n < ring.length ∧ ring.item? n = some item := by
  have hplace := congrArg (·[n]?) w.map_some_toList
  have hn : n < ring.length := by
    rw [← w.length_toList]
    exact (List.getElem?_eq_some_iff.1 h).1
  simp only [List.getElem?_map, h, Option.map_some, List.getElem?_range hn] at hplace
  exact ⟨hn, (Option.some.inj hplace).symm⟩

/-- Going round the ring from the head, one comes by every slot. -/
lemma WellFormed.exists_slot_eq (w : ring.WellFormed) {i : Nat} (hi : i < ring.capacity) :
    ∃ n < ring.capacity, ring.slot n = i := by
  have hhead := w.head_lt (by omega)
  by_cases hle : ring.head ≤ i
  · refine ⟨i - ring.head, by omega, ?_⟩
    rw [slot_eq w (by omega), if_pos (by omega)]
    omega
  · refine ⟨i + ring.capacity - ring.head, by omega, ?_⟩
    rw [slot_eq w (by omega), if_neg (by omega)]
    omega

/-- A place behind the newest item is vacant. -/
lemma WellFormed.slots_slot_of_le (w : ring.WellFormed) {n : Nat} (hle : ring.length ≤ n)
    (hn : n < ring.capacity) : ring.slots[ring.slot n]? = some none := by
  have hnone := w.isSome_item? n hn
  rw [decide_eq_false (by omega), Option.isSome_eq_false_iff, item?] at hnone
  have hlt : ring.slot n < ring.slots.size := slot_lt (by omega)
  rw [Array.getElem?_eq_getElem hlt] at hnone ⊢
  simpa using hnone

theorem WellFormed.houses_toList (w : ring.WellFormed) : ring.Houses ring.toList where
  length := w.length_toList.symm
  head_lt := w.head_lt
  occupied n item hitem := Option.join_eq_some_iff.1 (w.item?_of_toList hitem).2
  vacant i hi hother := by
    obtain ⟨n, hn, rfl⟩ := w.exists_slot_eq hi
    rw [w.length_toList] at hother
    have hle : ring.length ≤ n := Nat.le_of_not_lt fun hlt => hother n hlt rfl
    exact w.slots_slot_of_le hle hn

theorem WellFormed.inRange (w : ring.WellFormed) : ring.InRange where
  capacity_pos := by
    have hle := w.length_le
    omega
  back_vacant hroom := by
    have hle := w.length_le
    exact w.slots_slot_of_le (Nat.le_refl _) (by omega)
  front_occupied hitems := by
    obtain ⟨item, hfront⟩ := exists_front w (by omega)
    exact ⟨item, Option.join_eq_some_iff.1 hfront⟩
  slot_lt hitems n := by
    have hle := w.length_le
    exact RingBuffer.slot_lt (by omega)

end RingBuffer

namespace BoundedQueue

variable {queue : BoundedQueue α}

/-- A call: what the queue answers, and the queue after it. What is refused changes nothing. -/
def answer (queue : BoundedQueue α) : QueueCall α → QueueAnswer α × BoundedQueue α
  | .push item =>
    match queue.push item with
    | .ok queue' => (.done, queue')
    | .error refusal => (.refused refusal, queue)
  | .pop =>
    match queue.pop with
    | .ok (item, queue') => (.taken item, queue')
    | .error refusal => (.refused refusal, queue)
  | .clear => (.done, queue.clear)

/-- What a user of the queue sees of its items. -/
structure Presents (queue : BoundedQueue α) (items : List α) : Prop where
  length : queue.length = items.length
  isEmpty : queue.isEmpty = decide (items.length = 0)
  isFull : queue.isFull = decide (items.length = queue.capacity)
  front? : queue.front? = items.head?
  toList : queue.toList = items

lemma presents_toList (queue : BoundedQueue α) : queue.Presents queue.toList where
  length := queue.length_toList.symm
  isEmpty := by rw [length_toList]; rfl
  isFull := by rw [length_toList]; rfl
  front? := queue.front?_eq_head?
  toList := rfl

/-- The queue answers a call as the list of its items does, and then holds what that list has
become. -/
lemma answer_onList (queue : BoundedQueue α) (call : QueueCall α) :
    let answered := queue.answer call
    let listed := call.onList queue.capacity queue.toList
    answered.1 = listed.1 ∧ answered.2.toList = listed.2 ∧
      answered.2.capacity = queue.capacity := by
  cases call with
  | push item =>
    dsimp only [answer, QueueCall.onList]
    have hle := queue.length_le_capacity
    cases hfull : queue.isFull with
    | true =>
      have hlength : queue.length = queue.capacity := by simpa [isFull] using hfull
      rw [push_eq_error hfull, length_toList, if_neg (by omega)]
      exact ⟨rfl, rfl, rfl⟩
    | false =>
      have hlength : queue.length ≠ queue.capacity := by simpa [isFull] using hfull
      obtain ⟨queue', hpush⟩ := exists_push item hfull
      rw [hpush, length_toList, if_pos (by omega)]
      exact ⟨rfl, toList_of_push hpush, capacity_of_push hpush⟩
  | pop =>
    dsimp only [answer, QueueCall.onList]
    cases hempty : queue.isEmpty with
    | true =>
      rw [pop_eq_error hempty, toList_of_isEmpty hempty]
      exact ⟨rfl, rfl, rfl⟩
    | false =>
      obtain ⟨item, queue', hpop⟩ := exists_pop hempty
      rw [hpop, toList_of_pop hpop]
      exact ⟨rfl, rfl, capacity_of_pop hpop⟩
  | clear => exact ⟨rfl, queue.toList_clear, queue.capacity_clear⟩

theorem run_onList (queue : BoundedQueue α) (calls : List (QueueCall α)) :
    let ran := QueueCall.run answer queue calls
    let listed := QueueCall.run (QueueCall.onList queue.capacity) queue.toList calls
    ran.1 = listed.1 ∧ ran.2.toList = listed.2 ∧ ran.2.capacity = queue.capacity := by
  induction calls generalizing queue with
  | nil => exact ⟨rfl, rfl, rfl⟩
  | cons call calls ih =>
    obtain ⟨hanswer, hitems, hcapacity⟩ := queue.answer_onList call
    obtain ⟨hanswers, hlast, hsame⟩ := ih (queue.answer call).2
    rw [hcapacity, hitems] at hanswers hlast
    refine ⟨?_, hlast, hsame.trans hcapacity⟩
    rw [QueueCall.run, QueueCall.run, hanswer, hanswers]

/-- From its making on, a queue answers every call as the list of its items does, looks to its user
like that list, and keeps its capacity. Its ring has the items in consecutive slots and the other
slots vacant, and every slot that a call goes to is one of them. -/
theorem queue_is_bounded_list (capacity : Nat) (calls : List (QueueCall α)) :
    let ran := QueueCall.run answer (.empty capacity) calls
    let listed := QueueCall.run (QueueCall.onList capacity) [] calls
    ran.1 = listed.1 ∧ ran.2.Presents listed.2 ∧ ran.2.capacity = capacity ∧
      ran.2.ring.Houses listed.2 ∧ ran.2.ring.InRange := by
  intro ran listed
  have hrun := run_onList (.empty capacity : BoundedQueue α) calls
  rw [capacity_empty, toList_empty] at hrun
  obtain ⟨hanswers, hitems, hcapacity⟩ := hrun
  have hpresents : ran.2.Presents listed.2 := hitems ▸ ran.2.presents_toList
  have hhouses : ran.2.ring.Houses listed.2 := hitems ▸ ran.2.wellFormed.houses_toList
  exact ⟨hanswers, hpresents, hcapacity, hhouses, ran.2.wellFormed.inRange⟩

/-- A queue without slots is full and empty at once. -/
example : (QueueCall.run answer (.empty 0) [.push 7, .pop]).1 =
    [.refused (.full 7), .refused .empty] := by decide

end BoundedQueue

end DmaReadout
