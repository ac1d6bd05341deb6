import DmaReadout.Proofs.CompletionTotals
import DmaReadout.Proofs.MetricTotals

/-!
# Countable events

A call can hand descriptors to the card, move superpages to the ready queue, find the protocol
violated and be timed as a transition. This file follows such events to the counters that they
add to, and the superpages among them through the queues of the links.
-/

namespace DmaReadout

open Link (PassedAll departures)
open Pipeline (Advanced Enqueued)

variable {κ : Type}

/-- How many superpages a link has lost by the moves. -/
def Link.lost (id : LinkId) : List (LinkId × Nat) → Nat
  | [] => 0
  | (link, moved) :: moves => (if link = id then moved else 0) + lost id moves

/-- The number of superpages that wait on the links of this number. -/
def Pipeline.pendingOn (id : LinkId) (pipeline : Pipeline) : Nat :=
  (onLink id (waiting pipeline.links)).length

section Pending

variable {id : LinkId} {pipeline pipeline' : Pipeline} {quotas : List Nat}
  {moves : List (LinkId × Nat)}

lemma Link.lost_eq {links links' : List Link} {ready ready' : BoundedQueue Superpage}
    (h : PassedAll links ready quotas links' ready' moves) :
    lost id moves = (onLink id (departures links links')).length := by
  induction h with
  | rest =>
    rw [departures_self]
    rfl
  | @next link link' _ _ ready _ _ quota _ _ first _ ih =>
    have hcount : link.pending - link'.pending = link.share ready quota := by
      have := first.shed.pending
      omega
    have htaken : (link.queue.toList.take (link.share ready quota)).length =
        link.share ready quota := by
      have hle := first.shed.count_le
      rw [List.length_take, BoundedQueue.length_toList]
      exact Nat.min_eq_left hle
    rw [lost, departures, onLink_append, List.length_append, ih, hcount]
    by_cases hid : link.id = id
    · rw [if_pos hid, hid, onLink_map_self, htaken]
    · rw [if_neg hid, onLink_map_ne hid, List.length_nil]

namespace Pipeline

/-- With distinct numbers, only one link is meant. -/
lemma pendingOn_id {link : Link} (hlink : link ∈ pipeline.links)
    (hids : (pipeline.links.map Link.id).Nodup) : pipeline.pendingOn link.id = link.pending := by
  unfold pendingOn waiting
  generalize pipeline.links = links at hlink hids
  induction links with
  | nil => cases hlink
  | cons first links ih =>
    obtain ⟨hfresh, hids⟩ := List.nodup_cons.1 hids
    rw [List.flatMap_cons, onLink_append, List.length_append]
    rcases List.mem_cons.1 hlink with rfl | hlink
    · have hrest : onLink link.id
          (links.flatMap fun other => other.queue.toList.map (other.id, ·)) = [] := by
        apply onLink_eq_nil
        intro entry hentry heq
        obtain ⟨other, hother, hheld⟩ := List.mem_flatMap.1 hentry
        obtain ⟨superpage, -, rfl⟩ := List.mem_map.1 hheld
        exact hfresh (heq ▸ List.mem_map_of_mem hother)
      rw [onLink_map_self, hrest, BoundedQueue.length_toList]
      rfl
    · have hne : first.id ≠ link.id := by
        intro heq
        exact hfresh (heq ▸ List.mem_map_of_mem hlink)
      rw [onLink_map_ne hne, List.length_nil, Nat.zero_add, ih hlink hids]

lemma pendingOn_clear (id : LinkId) (pipeline : Pipeline) : pipeline.clear.pendingOn id = 0 := by
  have hempty : waiting pipeline.clear.links = [] := by
    apply waiting_eq_nil
    intro link hlink
    obtain ⟨link, -, rfl⟩ := List.mem_map.1 hlink
    rfl
  rw [pendingOn, hempty]
  rfl

lemma Advanced.pendingOn (h : Advanced pipeline quotas pipeline' moves) :
    pipeline'.pendingOn id + Link.lost id moves = pipeline.pendingOn id := by
  have hlength : (onLink id (waiting pipeline.links)).length = _ :=
    ((waiting_departures h.passed).filterMap _).length_eq
  rw [Pipeline.pendingOn, Pipeline.pendingOn, Link.lost_eq h.passed, hlength, ← onLink,
    onLink_append, List.length_append, Nat.add_comm]

lemma Enqueued.pendingOn {place : Nat} {link : Link} {superpage : Superpage}
    (h : Enqueued pipeline place link superpage pipeline') :
    pipeline'.pendingOn id = pipeline.pendingOn id + [link.id].count id := by
  obtain ⟨queue, hqueue, rfl⟩ := h.exists_queue
  have hset : (waiting (pipeline.links.set place { link with queue })).Perm
      ((link.id, superpage) :: waiting pipeline.links) :=
    waiting_set h.found rfl (BoundedQueue.toList_of_push hqueue)
  have hlength : (onLink id (waiting (pipeline.links.set place { link with queue }))).length = _ :=
    (hset.filterMap _).length_eq
  rw [Pipeline.pendingOn, Pipeline.pendingOn, hlength, ← onLink, ← List.singleton_append,
    onLink_append, List.length_append, Nat.add_comm]
  congr 1
  by_cases hid : link.id = id
  · rw [hid, List.count_singleton_self]
    exact congrArg List.length (onLink_map_self id [superpage])
  · rw [List.count_singleton, beq_false_of_ne hid]
    exact congrArg List.length (onLink_map_ne hid [superpage])

end Pipeline

end Pending

/-- The events of a call that are counted. -/
structure CallEvents where
  /-- The links that the card took descriptors for. -/
  pushed : List LinkId := []
  /-- What links lost to the ready queue. -/
  moves : List (LinkId × Nat) := []
  violation? : Option LinkId := none
  timed? : Option Transition := none

namespace CallEvents

def metrics (events : CallEvents) : List Metric :=
  events.pushed.map .superpagePushed ++
    (events.moves.filter fun move => move.2 > 0).map
      (fun move => .superpagesReady move.1 move.2) ++
    events.violation?.toList.map .protocolViolation ++ events.timed?.toList.map .transition

/-- What the events add to a counter. -/
def number (events : CallEvents) : Counter → Nat
  | .pushed link => events.pushed.count link
  | .ready link => Link.lost link events.moves
  | .violations link => events.violation?.toList.count link
  | .transitions kind => events.timed?.toList.count kind

lemma amount_pos {events : CallEvents} {metric : Metric} (h : metric ∈ events.metrics) :
    0 < metric.amount := by
  unfold metrics at h
  simp only [List.mem_append, List.mem_map, List.mem_filter] at h
  rcases h with ((⟨link, -, rfl⟩ | ⟨move, ⟨-, hmoved⟩, rfl⟩) | ⟨link, -, rfl⟩) | ⟨kind, -, rfl⟩
  · exact Nat.one_pos
  · exact of_decide_eq_true hmoved
  · exact Nat.one_pos
  · exact Nat.one_pos

end CallEvents

namespace Metric

variable {counter : Counter} {α : Type}

/-- Events that are counted one by one. -/
lemma sum_map [DecidableEq α] (event : α → Metric) (a : α)
    (hamount : ∀ b, (event b).amount = 1) (hcounter : ∀ b, (event b).counter = counter ↔ b = a)
    (events : List α) : sum counter (events.map event) = events.count a := by
  induction events with
  | nil => rfl
  | cons b events ih =>
    rw [List.map_cons, sum, ih, hamount, List.count_cons, Nat.add_comm]
    simp only [hcounter, beq_iff_eq]

/-- Events that belong to other counters. -/
lemma sum_map_eq_zero {event : α → Metric} (hcounter : ∀ b, (event b).counter ≠ counter)
    (events : List α) : sum counter (events.map event) = 0 := by
  induction events with
  | nil => rfl
  | cons b events ih => rw [List.map_cons, sum, ih, if_neg (hcounter b)]

lemma sum_ready (id : LinkId) (moves : List (LinkId × Nat)) :
    sum (.ready id) ((moves.filter fun move => move.2 > 0).map
      fun move => .superpagesReady move.1 move.2) = Link.lost id moves := by
  induction moves with
  | nil => rfl
  | cons move moves ih =>
    obtain ⟨link, moved⟩ := move
    rw [Link.lost, ← ih, List.filter_cons]
    cases moved with
    | zero =>
      rw [if_neg (by simp), ite_self, Nat.zero_add]
    | succ moved =>
      rw [if_pos (by simp), List.map_cons, sum]
      simp only [Metric.counter, Counter.ready.injEq, amount]

end Metric

/-- Each event is counted once, by its own counter. -/
theorem CallEvents.sum_metrics (events : CallEvents) (counter : Counter) :
    Metric.sum counter events.metrics = events.number counter := by
  unfold metrics
  rw [Metric.sum_append, Metric.sum_append, Metric.sum_append]
  cases counter with
  | pushed link =>
    rw [Metric.sum_map .superpagePushed link (fun _ => rfl) (by simp [Metric.counter]),
      Metric.sum_map_eq_zero nofun, Metric.sum_map_eq_zero nofun, Metric.sum_map_eq_zero nofun]
    rfl
  | ready link =>
    rw [Metric.sum_ready, Metric.sum_map_eq_zero nofun, Metric.sum_map_eq_zero nofun,
      Metric.sum_map_eq_zero nofun, Nat.zero_add]
    rfl
  | violations link =>
    rw [Metric.sum_map .protocolViolation link (fun _ => rfl) (by simp [Metric.counter]),
      Metric.sum_map_eq_zero nofun, Metric.sum_map_eq_zero nofun, Metric.sum_map_eq_zero nofun,
      Nat.zero_add]
    rfl
  | transitions kind =>
    rw [Metric.sum_map .transition kind (fun _ => rfl) (by simp [Metric.counter]),
      Metric.sum_map_eq_zero nofun, Metric.sum_map_eq_zero nofun, Metric.sum_map_eq_zero nofun,
      Nat.zero_add]
    rfl

namespace Channel

/-- The channel has counted the events, and nothing else. -/
def Counted (channel : Channel κ) (events : CallEvents) (last : Channel κ) : Prop :=
  last.journal.metrics.toList = channel.journal.metrics.toList ++ events.metrics

variable {channel last : Channel κ} {events : CallEvents}

lemma Counted.of_same (h : last.journal.metrics = channel.journal.metrics) :
    channel.Counted {} last := by
  rw [Counted, h]
  exact (List.append_nil _).symm

lemma Counted.of_push {link : LinkId}
    (h : last.journal = channel.journal.count (.superpagePushed link)) :
    channel.Counted { pushed := [link] } last := by
  rw [Counted, h]
  exact Array.toList_push

lemma Counted.of_violation {link : LinkId}
    (h : last.journal.metrics = channel.journal.metrics.push (.protocolViolation link)) :
    channel.Counted { violation? := some link } last := by
  rw [Counted, h]
  exact Array.toList_push

lemma Counted.of_moves {moves : List (LinkId × Nat)}
    (h : last.journal = channel.journal.countMoves moves) : channel.Counted { moves } last := by
  have hmetrics : ({ moves } : CallEvents).metrics =
      (moves.filter fun move => move.2 > 0).map
        fun move => .superpagesReady move.1 move.2 := by
    simp [CallEvents.metrics]
  rw [Counted, h, hmetrics]
  exact Array.toList_appendList

/-- Before anything was counted, nothing was. -/
lemma Counted.of_before {middle : Channel κ}
    (hbefore : middle.journal.metrics = channel.journal.metrics)
    (h : middle.Counted events last) : channel.Counted events last := by
  rw [Counted, ← hbefore]
  exact h

/-- The end of a transition is counted behind all else. -/
lemma Counted.timed {kind : Transition} {lifecycle : Lifecycle}
    (h : channel.Counted events last) (huntimed : events.timed? = none) :
    channel.Counted { events with timed? := some kind }
      { last with lifecycle, journal := last.journal.count (.transition kind) } := by
  have hevents : ({ events with timed? := some kind } : CallEvents).metrics =
      events.metrics ++ [.transition kind] := by
    simp [CallEvents.metrics, huntimed]
  rw [Counted, hevents, ← List.append_assoc, ← h]
  exact Array.toList_push

end Channel

end DmaReadout
