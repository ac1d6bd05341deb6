import DmaReadout.Link.Basic

/-!
# The pipeline of a channel

Superpages are spread over the links, each to the link with the fewest outstanding. Those
that the card has completed move to one ready queue, from which the consumer takes them.

```text
            ┌── link 0: 0, 3 ──┐
  push ─────┼── link 1: 1, 4 ──┼───── ready: … ───── pop
            └── link 2: 2    ──┘
```

The number of free transfer slots is kept on every push and every move, and always
equals what `Pipeline.countedSlots` finds by counting.
-/

namespace DmaReadout

/-- The queues of a channel. The counts that a poll has heard are no part of them: a fill that finds
those of an earlier poll does the same (`Endpoint.exists_collectInto`). -/
structure Pipeline where
  /-- The enabled links, in the order in which they are polled. -/
  links : List Link
  ready : BoundedQueue Superpage
  /-- The number of superpages that fit on one link. -/
  linkCapacity : Nat
  /-- The number of superpages that still fit on the links. -/
  slots : Nat

namespace Pipeline

/-- The empty pipeline over the given links. -/
def idle (links : List LinkId) (linkCapacity readyCapacity : Nat) : Pipeline where
  links := links.map fun id => .idle id linkCapacity
  ready := .empty readyCapacity
  linkCapacity
  slots := linkCapacity * links.length

/-- The number of superpages that fit on all links together. -/
def transferCapacity (pipeline : Pipeline) : Nat :=
  pipeline.linkCapacity * pipeline.links.length

/-- The number of superpages outstanding on all links together. -/
def pending (pipeline : Pipeline) : Nat :=
  Link.totalPending pipeline.links

/-- The free transfer slots, counted link by link. -/
def countedSlots (pipeline : Pipeline) : Nat :=
  pipeline.transferCapacity - pipeline.pending

def isTransferEmpty (pipeline : Pipeline) : Bool :=
  pipeline.slots == pipeline.transferCapacity

/-- Forgets every superpage. -/
def clear (pipeline : Pipeline) : Pipeline :=
  { pipeline with
    links := pipeline.links.map Link.clear
    ready := pipeline.ready.clear
    slots := pipeline.transferCapacity }

/-- Refuses when no transfer slot is left. -/
def checkCapacity (pipeline : Pipeline) : Except ReadoutError Unit :=
  if pipeline.slots = 0 then .error .queueFull else .ok ()

/-- The link for the next superpage, with its place. -/
def nextLink (pipeline : Pipeline) : Except ReadoutError (Nat × Link) :=
  match pipeline.checkCapacity with
  | .error e => .error e
  | .ok () =>
    match Link.leastLoaded pipeline.links with
    | none => .error .queueFull
    | some (place, link) =>
      if link.queue.isFull then .error (.linkQueueFull link.id link.queue.capacity)
      else .ok (place, link)

/-- Queues a superpage on `link`, the one at `place`. -/
def enqueue (pipeline : Pipeline) (place : Nat) (link : Link) (superpage : Superpage) :
    Except ReadoutError Pipeline :=
  match link.queue.push superpage with
  | .error _ => .error (.linkQueueFull link.id pipeline.linkCapacity)
  | .ok queue =>
    .ok { pipeline with
      links := pipeline.links.set place { link with queue }
      slots := pipeline.slots - 1 }

/-- Moves superpages to the ready queue, up to one quota per link. Gives back what each
link lost. -/
def advance (pipeline : Pipeline) (quotas : List Nat) :
    Except ReadoutError (Pipeline × List (LinkId × Nat)) :=
  match Link.moveAllToReady pipeline.links pipeline.ready quotas with
  | .error e => .error e
  | .ok (links, ready, moves) =>
    .ok ({ pipeline with
      links
      ready
      slots := pipeline.slots + Link.totalMoved moves }, moves)

/-- Refuses unless every link is empty and every slot is accounted for. -/
def checkDrained (pipeline : Pipeline) : Except ReadoutError Unit :=
  let keeps (link : Link) : Bool :=
    link.pending != 0 || pipeline.slots != pipeline.transferCapacity
  match pipeline.links.find? keeps with
  | none => .ok ()
  | some link =>
    .error (.drainIncomplete link.id link.pending pipeline.slots pipeline.transferCapacity)

/-- The oldest completed superpage. -/
def peek (pipeline : Pipeline) : Except ReadoutError Superpage :=
  match pipeline.ready.front? with
  | none => .error .queueEmpty
  | some superpage => .ok superpage

/-- Takes the oldest completed superpage. -/
def pop (pipeline : Pipeline) : Except ReadoutError (Superpage × Pipeline) :=
  match pipeline.ready.pop with
  | .error _ => .error .queueEmpty
  | .ok (superpage, ready) => .ok (superpage, { pipeline with ready })

theorem length_ready_of_pop {pipeline pipeline' : Pipeline} {superpage : Superpage}
    (h : pipeline.pop = .ok (superpage, pipeline')) :
    pipeline'.ready.length < pipeline.ready.length := by
  unfold pop at h
  split at h <;> rename_i hp <;> simp at h
  obtain ⟨rfl, rfl⟩ := h
  have hl := BoundedQueue.toList_of_pop hp
  rw [← BoundedQueue.length_toList, ← BoundedQueue.length_toList, hl]
  simp

/-- Takes completed superpages until that is refused, and gives them with the refusal. -/
def popAll (pipeline : Pipeline) : List Superpage × ReadoutError × Pipeline :=
  match _h : pipeline.pop with
  | .error e => ([], e, pipeline)
  | .ok (superpage, rest) =>
    let (superpages, e, last) := rest.popAll
    (superpage :: superpages, e, last)
termination_by pipeline.ready.length
decreasing_by exact length_ready_of_pop ‹_›

end Pipeline

end DmaReadout
