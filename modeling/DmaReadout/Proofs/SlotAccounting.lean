import DmaReadout.Proofs.Runs

/-!
# Slot accounting

The number of free transfer slots is kept by additions and subtractions in several places.
It equals what counting link by link gives, after every call and whatever that call came to.
-/

namespace DmaReadout

open Pipeline (Advanced Enqueued Popped Update)

namespace Link

lemma totalPending_set {links : List Link} {place : Nat} {link : Link}
    (hfound : links[place]? = some link) (link' : Link) :
    totalPending (links.set place link') + link.pending = totalPending links + link'.pending := by
  induction links generalizing place with
  | nil => simp at hfound
  | cons first links ih =>
    cases place with
    | zero =>
      rw [List.getElem?_cons_zero, Option.some.injEq] at hfound
      subst hfound
      rw [List.set_cons_zero, totalPending, totalPending]
      omega
    | succ place =>
      rw [List.getElem?_cons_succ] at hfound
      have hrest := ih hfound
      rw [List.set_cons_succ, totalPending, totalPending]
      omega

lemma totalPending_eq_zero_iff {links : List Link} :
    totalPending links = 0 ↔ ∀ link ∈ links, link.queue.isEmpty = true := by
  induction links with
  | nil => simp [totalPending]
  | cons first links ih =>
    rw [totalPending, Nat.add_eq_zero_iff, ih, List.forall_mem_cons, BoundedQueue.isEmpty,
      beq_iff_eq]
    rfl

lemma totalPending_map_idle (ids : List LinkId) (capacity : Nat) :
    totalPending (ids.map fun id => idle id capacity) = 0 := by
  rw [totalPending_eq_zero_iff]
  intro link hlink
  obtain ⟨id, -, rfl⟩ := List.mem_map.1 hlink
  rfl

lemma totalPending_map_clear (links : List Link) : totalPending (links.map clear) = 0 := by
  rw [totalPending_eq_zero_iff]
  intro link hlink
  obtain ⟨link, -, rfl⟩ := List.mem_map.1 hlink
  rfl

end Link

/-- The kept number of free slots agrees with what the links hold. -/
structure Balanced (pipeline : Pipeline) : Prop where
  capacity : ∀ link ∈ pipeline.links, link.queue.capacity = pipeline.linkCapacity
  slots : pipeline.slots + pipeline.pending = pipeline.transferCapacity

namespace Balanced

variable {pipeline pipeline' : Pipeline}

theorem idle (ids : List LinkId) (linkCapacity readyCapacity : Nat) :
    Balanced (.idle ids linkCapacity readyCapacity) where
  capacity link hlink := by
    obtain ⟨id, -, rfl⟩ := List.mem_map.1 hlink
    exact BoundedQueue.capacity_empty linkCapacity
  slots := by
    have hpending : (Pipeline.idle ids linkCapacity readyCapacity).pending = 0 :=
      Link.totalPending_map_idle ids linkCapacity
    rw [hpending]
    simp [Pipeline.transferCapacity, Pipeline.idle]

lemma clear (h : Balanced pipeline) : Balanced pipeline.clear where
  capacity link hlink := by
    obtain ⟨link, hmem, rfl⟩ := List.mem_map.1 hlink
    exact (BoundedQueue.capacity_clear _).trans (h.capacity link hmem)
  slots := by
    have hpending : pipeline.clear.pending = 0 := Link.totalPending_map_clear _
    rw [hpending]
    simp [Pipeline.transferCapacity, Pipeline.clear]

lemma enqueue (h : Balanced pipeline) {place : Nat} {link : Link} {superpage : Superpage}
    (henqueued : Enqueued pipeline place link superpage pipeline') : Balanced pipeline' := by
  obtain ⟨queue, hqueue, rfl⟩ := henqueued.exists_queue
  have hlink := List.mem_of_getElem? henqueued.found
  constructor
  · intro link' hlink'
    rcases List.mem_or_eq_of_mem_set hlink' with hlink' | rfl
    · exact h.capacity link' hlink'
    · exact (BoundedQueue.capacity_of_push hqueue).trans (h.capacity link hlink)
  · have hslots := h.slots
    have hpos := henqueued.slots_pos
    have hset := Link.totalPending_set henqueued.found { link with queue }
    have hgrown := Link.pending_of_push hqueue
    unfold Pipeline.pending Pipeline.transferCapacity at hslots ⊢
    rw [List.length_set]
    dsimp only
    omega

lemma advance (h : Balanced pipeline) {quotas : List Nat} {moves : List (LinkId × Nat)}
    (hadvanced : Advanced pipeline quotas pipeline' moves) : Balanced pipeline' := by
  constructor
  · intro link' hlink'
    obtain ⟨link, hlink, _, hshed, _⟩ := hadvanced.passed.exists_shed link' hlink'
    rw [hadvanced.linkCapacity]
    exact hshed.capacity.trans (h.capacity link hlink)
  · have hslots := h.slots
    have htotal := hadvanced.passed.totalPending
    have hlength := congrArg List.length hadvanced.passed.map_id
    rw [List.length_map, List.length_map] at hlength
    unfold Pipeline.pending Pipeline.transferCapacity at hslots ⊢
    rw [hadvanced.slots, hadvanced.linkCapacity, hlength]
    omega

lemma pop (h : Balanced pipeline) {superpage : Superpage}
    (hpopped : Popped pipeline superpage pipeline') : Balanced pipeline' := by
  constructor
  · rw [hpopped.links, hpopped.linkCapacity]
    exact h.capacity
  · unfold Pipeline.pending Pipeline.transferCapacity
    rw [hpopped.links, hpopped.linkCapacity, hpopped.slots]
    exact h.slots

theorem update (h : Balanced pipeline) (hupdate : Update pipeline pipeline') :
    Balanced pipeline' := by
  cases hupdate with
  | keep => exact h
  | clear => exact h.clear
  | enqueue henqueued => exact h.enqueue henqueued
  | advance hadvanced => exact h.advance hadvanced
  | pop hpopped => exact h.pop hpopped

lemma slots_eq (h : Balanced pipeline) :
    pipeline.slots = pipeline.countedSlots ∧ pipeline.pending ≤ pipeline.transferCapacity := by
  have hslots := h.slots
  unfold Pipeline.countedSlots
  constructor <;> omega

lemma isTransferEmpty_iff (h : Balanced pipeline) :
    pipeline.isTransferEmpty = true ↔ ∀ link ∈ pipeline.links, link.queue.isEmpty = true := by
  have hslots := h.slots
  rw [← Link.totalPending_eq_zero_iff, Pipeline.isTransferEmpty, beq_iff_eq]
  unfold Pipeline.pending at hslots
  omega

end Balanced

/-- The queues of a channel with these parameters over these links, all numbers that are
kept about them being right. -/
structure SlotsAccounted (parameters : Parameters) (ids : List LinkId) (pipeline : Pipeline) :
    Prop where
  links : pipeline.links.map Link.id = ids
  pending_le : pipeline.pending ≤ parameters.linkCapacity * ids.length
  slots : pipeline.slots = parameters.linkCapacity * ids.length - pipeline.pending
  counted : pipeline.slots = pipeline.countedSlots
  linkPending_le : ∀ link ∈ pipeline.links, link.pending ≤ parameters.linkCapacity
  readyCapacity : pipeline.ready.capacity = parameters.readyCapacity ids.length
  ready_le : pipeline.ready.length ≤ pipeline.ready.capacity
  isTransferEmpty_iff : pipeline.isTransferEmpty = true ↔
    ∀ link ∈ pipeline.links, link.queue.isEmpty = true

lemma Balanced.accounted {parameters : Parameters} {ids : List LinkId} {pipeline : Pipeline}
    (h : Balanced pipeline) (hids : pipeline.links.map Link.id = ids)
    (hlink : pipeline.linkCapacity = parameters.linkCapacity)
    (hready : pipeline.ready.capacity = parameters.readyCapacity ids.length) :
    SlotsAccounted parameters ids pipeline := by
  obtain ⟨hcounted, hpending⟩ := h.slots_eq
  have htotal : pipeline.transferCapacity = parameters.linkCapacity * ids.length := by
    rw [Pipeline.transferCapacity, hlink, ← hids, List.length_map]
  have hcountedSlots := hcounted
  rw [Pipeline.countedSlots, htotal] at hcountedSlots
  rw [htotal] at hpending
  refine ⟨hids, hpending, hcountedSlots, hcounted, ?_, hready, ?_, h.isTransferEmpty_iff⟩
  · intro link hmem
    rw [← hlink, ← h.capacity link hmem]
    exact link.queue.length_le_capacity
  · exact pipeline.ready.length_le_capacity

section Runs

variable {κ : Type} {endpoint : Endpoint κ}

lemma afterCalls_frame (endpoint : Endpoint κ) (channel : Channel κ) (calls : List Call) :
    let last := endpoint.afterCalls channel calls
    last.pipeline.links.map Link.id = channel.pipeline.links.map Link.id ∧
      last.pipeline.linkCapacity = channel.pipeline.linkCapacity ∧
      last.pipeline.ready.capacity = channel.pipeline.ready.capacity := by
  induction calls generalizing channel with
  | nil => exact ⟨rfl, rfl, rfl⟩
  | cons call calls ih =>
    have hupdate := call.operation.update (endpoint.during call) channel
    obtain ⟨hids, hlink, hready⟩ := ih (endpoint.afterCall channel call)
    exact ⟨hids.trans hupdate.map_id, hlink.trans hupdate.linkCapacity,
      hready.trans hupdate.readyCapacity⟩

lemma afterCalls_balanced {channel : Channel κ} (h : Balanced channel.pipeline)
    (calls : List Call) : Balanced (endpoint.afterCalls channel calls).pipeline := by
  induction calls generalizing channel with
  | nil => exact h
  | cons call calls ih =>
    apply ih
    exact h.update (call.operation.update (endpoint.during call) channel)

lemma Opened.balanced {card : κ} {links : List LinkId} {channel : Channel κ}
    (h : Opened endpoint card links channel) : Balanced channel.pipeline := by
  rw [h.pipeline]
  exact Balanced.idle _ _ _

/-- After any calls on an open channel, whether they succeeded or failed, and whatever card
and buffer answered, the numbers that are kept about the queues are right. -/
theorem slots_accounted (endpoint : Endpoint κ) (card : κ) (channel : Channel κ)
    (hopen : endpoint.openChannel card = .ok channel) (calls : List Call) :
    SlotsAccounted endpoint.parameters (channel.pipeline.links.map Link.id)
      (endpoint.afterCalls channel calls).pipeline := by
  obtain ⟨links, hopened⟩ := exists_opened hopen
  have hbalanced : Balanced channel.pipeline := by
    rw [hopened.pipeline]
    exact Balanced.idle _ _ _
  obtain ⟨hids, hlink, hready⟩ := afterCalls_frame endpoint channel calls
  apply (afterCalls_balanced hbalanced calls).accounted hids
  · rw [hlink, hopened.pipeline]
    rfl
  · rw [hready, hopened.pipeline]
    simp [Pipeline.idle]

/-- Two superpages wait on the first link and one on the second, when stopping fails. -/
theorem slots_accounted_failed_stop :
    let card : ScriptedCard :=
      ([⟨.pushSuperpage, 3, 1, .because "push"⟩, ⟨.setBufferReady, 1, 1, .because "stop"⟩],
        { completion := .manual })
    let calls := [.start, .push ⟨0, 8192, 0, false, 0⟩, .push ⟨8192, 8192, 0, false, 1⟩,
      .push ⟨16384, 8192, 0, false, 2⟩, .push ⟨24576, 8192, 0, false, 3⟩, .fill, .stop].map
        fun operation => ⟨operation, twoLinks.buffer⟩
    let last := (twoLinks.afterCalls (twoLinksChannel card) calls).pipeline
    twoLinks.openChannel card = .ok (twoLinksChannel card) ∧
      SlotsAccounted twoLinks.parameters [⟨0⟩, ⟨1⟩] last ∧
      last.links.map Link.pending = [2, 1] ∧ last.slots = 1 := by
  refine ⟨openChannel_twoLinks _, ?_, ?_, ?_⟩
  · exact slots_accounted twoLinks _ _ (openChannel_twoLinks _) _
  · decide +kernel
  · decide +kernel

end Runs

end DmaReadout
