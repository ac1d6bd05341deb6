import DmaReadout.Queue.RingBuffer

/-!
# Bounded queues

A first-in first-out queue of fixed capacity, kept in a well-formed ring. The lemmas
describe each operation on `BoundedQueue.toList`, the items from oldest to newest.
-/

namespace DmaReadout

/-- A queue that never holds more than `capacity` items. -/
structure BoundedQueue (α : Type) where
  ring : RingBuffer α
  wellFormed : ring.WellFormed

namespace BoundedQueue

variable {α : Type} {queue queue' : BoundedQueue α} {item : α}

def empty (capacity : Nat) : BoundedQueue α :=
  ⟨RingBuffer.empty capacity, RingBuffer.wellFormed_empty capacity⟩

def capacity (queue : BoundedQueue α) : Nat :=
  queue.ring.capacity

def length (queue : BoundedQueue α) : Nat :=
  queue.ring.length

def isEmpty (queue : BoundedQueue α) : Bool :=
  queue.length == 0

def isFull (queue : BoundedQueue α) : Bool :=
  queue.length == queue.capacity

/-- The items, oldest first. -/
def toList (queue : BoundedQueue α) : List α :=
  queue.ring.toList

/-- The oldest item. -/
def front? (queue : BoundedQueue α) : Option α :=
  queue.ring.front?

/-- Appends an item behind the newest. -/
def push (item : α) (queue : BoundedQueue α) : Except (QueueError α) (BoundedQueue α) :=
  match h : queue.ring.push item with
  | .error refusal => .error refusal
  | .ok ring => .ok ⟨ring, queue.wellFormed.push h⟩

/-- Takes the oldest item. -/
def pop (queue : BoundedQueue α) : Except (QueueError α) (α × BoundedQueue α) :=
  match h : queue.ring.pop with
  | .error refusal => .error refusal
  | .ok (item, ring) => .ok (item, ⟨ring, queue.wellFormed.pop h⟩)

/-- The queue without its items. -/
def clear (queue : BoundedQueue α) : BoundedQueue α :=
  empty queue.capacity

theorem length_toList (queue : BoundedQueue α) : queue.toList.length = queue.length :=
  queue.wellFormed.length_toList

theorem length_le_capacity (queue : BoundedQueue α) : queue.length ≤ queue.capacity :=
  queue.wellFormed.length_le

@[simp]
theorem capacity_empty (capacity : Nat) : (empty capacity : BoundedQueue α).capacity = capacity :=
  RingBuffer.capacity_empty capacity

@[simp]
theorem toList_empty (capacity : Nat) : (empty capacity : BoundedQueue α).toList = [] := rfl

@[simp]
theorem toList_clear (queue : BoundedQueue α) : queue.clear.toList = [] := rfl

@[simp]
theorem capacity_clear (queue : BoundedQueue α) : queue.clear.capacity = queue.capacity :=
  RingBuffer.capacity_empty _

theorem ring_of_push (h : queue.push item = .ok queue') :
    queue.ring.push item = .ok queue'.ring := by
  unfold push at h
  split at h <;> simp at h
  rwa [← h]

theorem ring_of_pop (h : queue.pop = .ok (item, queue')) :
    queue.ring.pop = .ok (item, queue'.ring) := by
  unfold pop at h
  split at h <;> simp at h
  obtain ⟨rfl, rfl⟩ := h
  assumption

theorem toList_of_push (h : queue.push item = .ok queue') :
    queue'.toList = queue.toList ++ [item] :=
  RingBuffer.toList_of_push queue.wellFormed (ring_of_push h)

theorem capacity_of_push (h : queue.push item = .ok queue') :
    queue'.capacity = queue.capacity :=
  RingBuffer.capacity_of_push (ring_of_push h)

theorem toList_of_pop (h : queue.pop = .ok (item, queue')) :
    queue.toList = item :: queue'.toList :=
  RingBuffer.toList_of_pop queue.wellFormed (ring_of_pop h)

theorem capacity_of_pop (h : queue.pop = .ok (item, queue')) :
    queue'.capacity = queue.capacity :=
  RingBuffer.capacity_of_pop (ring_of_pop h)

/-- A full queue hands the item back. -/
theorem push_eq_error (h : queue.isFull = true) : queue.push item = .error (.full item) := by
  have hl : queue.ring.length = queue.ring.capacity := by
    simpa [isFull, length, capacity] using h
  have hrefused : queue.ring.push item = .error (.full item) := RingBuffer.push_eq_error hl
  unfold push
  split <;> rename_i hp <;> rw [hrefused] at hp <;> cases hp
  rfl

theorem exists_push (item : α) (h : queue.isFull = false) :
    ∃ queue', queue.push item = .ok queue' := by
  have hl : queue.ring.length ≠ queue.ring.capacity := by
    simpa [isFull, length, capacity] using h
  unfold push
  split <;> rename_i hp
  · simp [RingBuffer.push, hl] at hp
  · exact ⟨_, rfl⟩

theorem pop_eq_error (h : queue.isEmpty = true) : queue.pop = .error .empty := by
  have hl : queue.ring.length = 0 := by simpa [isEmpty, length] using h
  unfold pop
  split <;> rename_i hp <;> simp [RingBuffer.pop, hl] at hp
  rw [hp]

theorem exists_pop (h : queue.isEmpty = false) :
    ∃ item queue', queue.pop = .ok (item, queue') := by
  have hl : queue.ring.length ≠ 0 := by simpa [isEmpty, length] using h
  obtain ⟨item, hitem⟩ := RingBuffer.exists_front queue.wellFormed (by omega)
  unfold pop
  split <;> rename_i hp
  · simp [RingBuffer.pop, hl, hitem] at hp
  · exact ⟨_, _, rfl⟩

/-- The item in front is the one that would be taken next. -/
theorem front?_of_pop (h : queue.pop = .ok (item, queue')) : queue.front? = some item := by
  have hp := ring_of_pop h
  unfold RingBuffer.pop at hp
  unfold front? RingBuffer.front?
  split at hp
  · simp at hp
  · split at hp <;> rename_i hi <;> simp at hp
    simp [*]

theorem toList_of_isEmpty (h : queue.isEmpty = true) : queue.toList = [] := by
  have hl : queue.length = 0 := by simpa [isEmpty] using h
  exact List.length_eq_zero_iff.1 (queue.length_toList.trans hl)

theorem front?_eq_head? (queue : BoundedQueue α) : queue.front? = queue.toList.head? := by
  cases hempty : queue.isEmpty with
  | true =>
    have hl : queue.length = 0 := by simpa [isEmpty] using hempty
    rw [toList_of_isEmpty hempty, List.head?_nil]
    exact if_pos hl
  | false =>
    obtain ⟨item, queue', hpop⟩ := exists_pop hempty
    rw [front?_of_pop hpop, toList_of_pop hpop, List.head?_cons]

end BoundedQueue

end DmaReadout
