import DmaReadout.Error
import DmaReadout.Queue.Bounded
import DmaReadout.Superpage

/-!
# Links

A link keeps the superpages that were handed to the card and are not yet seen complete,
and counts those that were. The card keeps a count of its own, modulo 2^32 as well; the
difference of the two is what has arrived since.
-/

namespace DmaReadout

/-- One link of a channel. -/
structure Link where
  id : LinkId
  /-- The superpages that the card still owns, oldest first. -/
  queue : BoundedQueue Superpage
  /-- How many superpages were taken off this link since the last clearing, modulo 2^32. -/
  counter : UInt32 := 0

namespace Link

/-- A link that nothing was pushed to. -/
def idle (id : LinkId) (capacity : Nat) : Link :=
  { id, queue := .empty capacity }

/-- The number of superpages outstanding on the link. -/
def pending (link : Link) : Nat :=
  link.queue.length

/-- Forgets every superpage and restarts the count, as a reset of the card does. -/
def clear (link : Link) : Link :=
  { link with queue := link.queue.clear, counter := 0 }

/-- How many superpages the card counts beyond those taken off the link. -/
def arrivals (link : Link) (hardwareCount : UInt32) : UInt32 :=
  hardwareCount - link.counter

/-- What has arrived is the difference of the counts modulo 2^32. -/
theorem toNat_arrivals (link : Link) (hardwareCount : UInt32) :
    (link.arrivals hardwareCount).toNat =
      (hardwareCount.toNat + UInt32.size - link.counter.toNat) % UInt32.size := by
  have hcounter := link.counter.toNat_lt
  rw [arrivals, UInt32.toNat_sub, UInt32.size]
  omega

/-- The place and the value of the link with the fewest superpages, the first of several. -/
def leastLoaded : List Link → Option (Nat × Link)
  | [] => none
  | link :: links =>
    match leastLoaded links with
    | none => some (0, link)
    | some (place, best) =>
      if link.pending ≤ best.pending then some (0, link) else some (place + 1, best)

/-- The number of superpages outstanding on several links. -/
def totalPending : List Link → Nat
  | [] => 0
  | link :: links => link.pending + totalPending links

/-- Takes up to `quota` of the oldest superpages off a link and puts them, marked ready,
behind those in `ready`, as long as the link has one and `ready` has room; so neither queue
refuses. Gives back the link, the ready queue and the number of superpages moved. -/
def moveToReady (link : Link) (ready : BoundedQueue Superpage) :
    (quota : Nat) → Except ReadoutError (Link × BoundedQueue Superpage × Nat)
  | 0 => .ok (link, ready, 0)
  | quota + 1 =>
    if link.queue.isEmpty || ready.isFull then .ok (link, ready, 0)
    else
      match link.queue.pop with
      | .error _ => .error .queueEmpty
      | .ok (superpage, queue) =>
        match ready.push superpage.markReady with
        | .error _ => .error (.other "ready queue overflowed")
        | .ok ready =>
          match moveToReady { link with queue, counter := link.counter + 1 } ready quota with
          | .error e => .error e
          | .ok (link, ready, moved) => .ok (link, ready, moved + 1)

/-- Moves superpages off several links in turn, up to one quota per link; links without a
quota are left alone. Gives back the links, the ready queue and what each link lost. -/
def moveAllToReady : (links : List Link) → (ready : BoundedQueue Superpage) →
    (quotas : List Nat) →
    Except ReadoutError (List Link × BoundedQueue Superpage × List (LinkId × Nat))
  | link :: links, ready, quota :: quotas =>
    match link.moveToReady ready quota with
    | .error e => .error e
    | .ok (link, ready, moved) =>
      match moveAllToReady links ready quotas with
      | .error e => .error e
      | .ok (links, ready, moves) => .ok (link :: links, ready, (link.id, moved) :: moves)
  | links, ready, _ => .ok (links, ready, [])

/-- The number of superpages that left any link. -/
def totalMoved : List (LinkId × Nat) → Nat
  | [] => 0
  | (_, moved) :: moves => moved + totalMoved moves

end Link

end DmaReadout
