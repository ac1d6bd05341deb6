/-!
# Ring buffers

A ring buffer holds a first-in first-out queue in a fixed number of slots: `length` items from
the slot `head` on, modulo the number of slots. `RingBuffer.toList` is the queue it stands
for. In a well-formed ring buffer exactly the slots of those items are occupied, and `push`
and `pop` act on the queue at its two ends.
-/

namespace DmaReadout

/-- Why a queue refuses an operation. -/
inductive QueueError (α : Type)
  /-- There is no room for the item, which is handed back. -/
  | full (item : α)
  | empty
deriving DecidableEq

/-- The wording of a refusal. -/
def QueueError.message {α : Type} : QueueError α → String
  | full _ => "Queue is full"
  | empty => "Queue is empty"

/-- A row of slots, used in a circle. -/
structure RingBuffer (α : Type) where
  slots : Array (Option α)
  head : Nat
  length : Nat

namespace RingBuffer

variable {α : Type}

/-- The empty ring with `capacity` slots. -/
def empty (capacity : Nat) : RingBuffer α :=
  ⟨Array.replicate capacity none, 0, 0⟩

def capacity (ring : RingBuffer α) : Nat :=
  ring.slots.size

/-- The slot `n` places behind the head. -/
def slot (ring : RingBuffer α) (n : Nat) : Nat :=
  (ring.head + n) % ring.capacity

/-- What the slot `n` places behind the head holds. -/
def item? (ring : RingBuffer α) (n : Nat) : Option α :=
  ring.slots[ring.slot n]?.join

/-- The items, oldest first. -/
def toList (ring : RingBuffer α) : List α :=
  (List.range ring.length).filterMap ring.item?

/-- Appends an item behind the newest. -/
def push (item : α) (ring : RingBuffer α) : Except (QueueError α) (RingBuffer α) :=
  if ring.length = ring.capacity then .error (.full item)
  else
    .ok { ring with
      slots := ring.slots.setIfInBounds (ring.slot ring.length) (some item)
      length := ring.length + 1 }

/-- Takes the oldest item. -/
def pop (ring : RingBuffer α) : Except (QueueError α) (α × RingBuffer α) :=
  if ring.length = 0 then .error .empty
  else
    match ring.slots[ring.head]?.join with
    | none => .error .empty
    | some item =>
      .ok (item, {
        slots := ring.slots.setIfInBounds ring.head none
        head := ring.slot 1
        length := ring.length - 1 })

/-- The oldest item. -/
def front? (ring : RingBuffer α) : Option α :=
  if ring.length = 0 then none else ring.slots[ring.head]?.join

/-- A ring keeps its items where they belong: the head is a slot, unless there are none,
and the occupied slots are those of the `length` items behind the head. -/
structure WellFormed (ring : RingBuffer α) : Prop where
  head_lt : 0 < ring.capacity → ring.head < ring.capacity
  length_le : ring.length ≤ ring.capacity
  isSome_item? : ∀ n < ring.capacity, (ring.item? n).isSome = decide (n < ring.length)

theorem filterMap_range_congr {f g : Nat → Option α} {n : Nat} (h : ∀ i < n, f i = g i) :
    (List.range n).filterMap f = (List.range n).filterMap g := by
  induction n with
  | zero => rfl
  | succ n ih =>
    simp only [List.range_succ, List.filterMap_append]
    rw [ih fun i hi => h i (by omega)]
    simp only [List.filterMap_cons, List.filterMap_nil, h n (by omega)]

@[simp]
theorem capacity_empty (capacity : Nat) : (empty capacity : RingBuffer α).capacity = capacity := by
  simp [empty, RingBuffer.capacity]

theorem wellFormed_empty (capacity : Nat) : (empty capacity : RingBuffer α).WellFormed where
  head_lt h := by rwa [capacity_empty] at h ⊢
  length_le := by simp [empty]
  isSome_item? n hn := by simp [item?, empty, Array.getElem?_replicate]; split <;> simp

theorem slot_eq {ring : RingBuffer α} (w : ring.WellFormed) {n : Nat} (hn : n < ring.capacity) :
    ring.slot n =
      if ring.head + n < ring.capacity then ring.head + n
      else ring.head + n - ring.capacity := by
  have hh := w.head_lt (by omega)
  unfold slot
  split
  · exact Nat.mod_eq_of_lt ‹_›
  · rw [Nat.mod_eq_sub_mod (by omega), Nat.mod_eq_of_lt (by omega)]

theorem slot_lt {ring : RingBuffer α} {n : Nat} (h : 0 < ring.capacity) :
    ring.slot n < ring.slots.size :=
  Nat.mod_lt _ h

theorem slot_ne {ring : RingBuffer α} (w : ring.WellFormed) {m n : Nat}
    (hm : m < ring.capacity) (hn : n < ring.capacity) (hmn : m ≠ n) :
    ring.slot m ≠ ring.slot n := by
  rw [slot_eq w hm, slot_eq w hn]
  have := w.head_lt (by omega)
  split <;> split <;> omega

/-- Two places reach one slot only if they are equal. -/
theorem slot_inj {ring : RingBuffer α} (w : ring.WellFormed) {m n : Nat}
    (hm : m < ring.capacity) (hn : n < ring.capacity) :
    ring.slot m = ring.slot n ↔ m = n :=
  ⟨fun h => Decidable.byContradiction fun hmn => slot_ne w hm hn hmn h, fun h => h ▸ rfl⟩

/-- A ring that counts an item holds one at its head. -/
theorem exists_front {ring : RingBuffer α} (w : ring.WellFormed) (h : 0 < ring.length) :
    ∃ item, ring.slots[ring.head]?.join = some item := by
  have hc := w.length_le
  have hh := w.head_lt (by omega)
  have hs := w.isSome_item? 0 (by omega)
  rw [decide_eq_true h, item?, slot_eq w (by omega), if_pos (by omega)] at hs
  exact Option.isSome_iff_exists.1 hs

section Items

variable {ring : RingBuffer α}

theorem WellFormed.exists_item (w : ring.WellFormed) {n : Nat} (hn : n < ring.length) :
    ∃ item, ring.item? n = some item := by
  have hsome := w.isSome_item? n (Nat.lt_of_lt_of_le hn w.length_le)
  rw [decide_eq_true hn] at hsome
  exact Option.isSome_iff_exists.1 hsome

theorem WellFormed.map_some_toList (w : ring.WellFormed) :
    ring.toList.map some = (List.range ring.length).map ring.item? := by
  have hfirst : ∀ n ≤ ring.length,
      ((List.range n).filterMap ring.item?).map some = (List.range n).map ring.item? := by
    intro n hn
    induction n with
    | zero => rfl
    | succ n ih =>
      obtain ⟨item, hitem⟩ := w.exists_item hn
      simp [List.range_succ, ih (by omega), hitem]
  exact hfirst _ (Nat.le_refl _)

/-- No slot is passed over. -/
theorem WellFormed.length_toList (w : ring.WellFormed) : ring.toList.length = ring.length := by
  simpa using congrArg List.length w.map_some_toList

end Items

section Push

variable {ring ring' : RingBuffer α} {item : α}

theorem push_eq_error (h : ring.length = ring.capacity) :
    ring.push item = .error (.full item) := by
  simp [push, h]

theorem length_of_push (h : ring.push item = .ok ring') : ring'.length = ring.length + 1 := by
  unfold push at h
  split at h <;> simp at h
  rw [← h]

theorem capacity_of_push (h : ring.push item = .ok ring') : ring'.capacity = ring.capacity := by
  unfold push at h
  split at h <;> simp at h
  simp [← h, RingBuffer.capacity]

theorem length_lt_of_push (w : ring.WellFormed) (h : ring.push item = .ok ring') :
    ring.length < ring.capacity := by
  have := w.length_le
  unfold push at h
  split at h
  · simp at h
  · omega

theorem item?_of_push (w : ring.WellFormed) (h : ring.push item = .ok ring') {n : Nat}
    (hn : n < ring.capacity) :
    ring'.item? n = if n = ring.length then some item else ring.item? n := by
  have hl := length_lt_of_push w h
  unfold push at h
  split at h <;> simp at h
  subst h
  have hs := slot_inj w hl hn
  have hlt := slot_lt (n := ring.length) (show 0 < ring.capacity by omega)
  simp only [slot, RingBuffer.capacity] at hs hlt
  simp only [item?, slot, RingBuffer.capacity, Array.size_setIfInBounds,
    Array.getElem?_setIfInBounds, hs, hlt, eq_comm (a := ring.length)]
  split <;> rfl

theorem WellFormed.push (w : ring.WellFormed) (h : ring.push item = .ok ring') :
    ring'.WellFormed where
  head_lt := by
    have := w.head_lt
    rw [capacity_of_push h]
    unfold RingBuffer.push at h
    split at h <;> simp at h
    rw [← h]
    exact this
  length_le := by
    rw [capacity_of_push h, length_of_push h]
    exact length_lt_of_push w h
  isSome_item? n hn := by
    rw [capacity_of_push h] at hn
    rw [item?_of_push w h hn, length_of_push h]
    split
    · simp_all
    · rw [w.isSome_item? n hn, decide_eq_decide]
      omega

theorem toList_of_push (w : ring.WellFormed) (h : ring.push item = .ok ring') :
    ring'.toList = ring.toList ++ [item] := by
  have hl := length_lt_of_push w h
  unfold toList
  rw [length_of_push h, List.range_succ, List.filterMap_append]
  congr 1
  · apply filterMap_range_congr
    intro n hn
    rw [item?_of_push w h (by omega), if_neg (by omega)]
  · simp [item?_of_push w h hl]

end Push

section Pop

variable {ring ring' : RingBuffer α} {item : α}

theorem length_of_pop (h : ring.pop = .ok (item, ring')) : ring.length = ring'.length + 1 := by
  unfold pop at h
  split at h
  · simp at h
  · split at h <;> simp at h
    rw [← h.2]
    simp
    omega

theorem capacity_of_pop (h : ring.pop = .ok (item, ring')) : ring'.capacity = ring.capacity := by
  unfold pop at h
  split at h
  · simp at h
  · split at h <;> simp at h
    simp [← h.2, RingBuffer.capacity]

theorem item?_zero_of_pop (w : ring.WellFormed) (h : ring.pop = .ok (item, ring')) :
    ring.item? 0 = some item := by
  have hl := length_of_pop h
  have hc := w.length_le
  have hh := w.head_lt (by omega)
  unfold pop at h
  split at h
  · simp at h
  · split at h <;> rename_i hs <;> simp at h
    rw [item?, slot_eq w (by omega), if_pos (by omega)]
    simpa [h.1] using hs

theorem slots_of_pop (h : ring.pop = .ok (item, ring')) :
    ring'.slots = ring.slots.setIfInBounds ring.head none ∧ ring'.head = ring.slot 1 := by
  unfold pop at h
  split at h
  · simp at h
  · split at h <;> simp at h
    simp [← h.2]

theorem item?_of_pop (w : ring.WellFormed) (h : ring.pop = .ok (item, ring')) {n : Nat}
    (hn : n < ring.capacity) :
    ring'.item? n = if n + 1 < ring.capacity then ring.item? (n + 1) else none := by
  have hh := w.head_lt (by omega)
  have h0 : ring.slot 0 = ring.head := by rw [slot_eq w (by omega), if_pos (by omega)]; rfl
  obtain ⟨hslots, hhead⟩ := slots_of_pop h
  have hslot : ring'.slot n = ring.slot (n + 1) := by
    simp only [slot, hhead, capacity_of_pop h, Nat.mod_add_mod]
    congr 1
    omega
  rw [item?, hslot, hslots]
  by_cases hlt : n + 1 < ring.capacity
  · rw [if_pos hlt, Array.getElem?_setIfInBounds_ne, item?]
    rw [← h0, Ne, slot_inj w (by omega) hlt]
    omega
  · have hwrap : ring.slot (n + 1) = ring.head := by
      rw [show n + 1 = ring.capacity by omega, slot, Nat.add_mod_right, Nat.mod_eq_of_lt hh]
    rw [if_neg hlt, hwrap, Array.getElem?_setIfInBounds_self]
    split <;> rfl

theorem WellFormed.pop (w : ring.WellFormed) (h : ring.pop = .ok (item, ring')) :
    ring'.WellFormed where
  head_lt hpos := by
    rw [capacity_of_pop h] at hpos ⊢
    unfold RingBuffer.pop at h
    split at h
    · simp at h
    · split at h <;> simp at h
      rw [← h.2]
      exact slot_lt hpos
  length_le := by
    rw [capacity_of_pop h]
    have := length_of_pop h
    have := w.length_le
    omega
  isSome_item? n hn := by
    rw [capacity_of_pop h] at hn
    rw [item?_of_pop w h hn]
    have hl := length_of_pop h
    have := w.length_le
    split
    · rw [w.isSome_item? _ ‹_›, decide_eq_decide]
      omega
    · simp
      omega

theorem toList_of_pop (w : ring.WellFormed) (h : ring.pop = .ok (item, ring')) :
    ring.toList = item :: ring'.toList := by
  have hl := length_of_pop h
  have hc := w.length_le
  unfold toList
  rw [hl, List.range_succ_eq_map, List.filterMap_cons, item?_zero_of_pop w h]
  simp only [List.filterMap_map, List.cons.injEq, true_and]
  apply filterMap_range_congr
  intro n hn
  rw [item?_of_pop w h (by omega), if_pos (by omega)]
  rfl

end Pop

end RingBuffer

end DmaReadout
