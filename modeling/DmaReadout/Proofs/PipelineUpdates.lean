import DmaReadout.Proofs.LeastLoaded
import DmaReadout.Proofs.LinkMoves

/-!
# Changing the queues of a pipeline

The pipeline is changed in four ways: a superpage is queued on the chosen link, superpages
move on to the ready queue, one is taken by the consumer, or all are forgotten.
`Pipeline.Update` lists them with all that each of them does.
-/

namespace DmaReadout

open Link

lemma Link.pending_of_push {link : Link} {superpage : Superpage}
    {queue : BoundedQueue Superpage} (h : link.queue.push superpage = .ok queue) :
    Link.pending { link with queue } = link.pending + 1 := by
  have hgrown := congrArg List.length (BoundedQueue.toList_of_push h)
  rw [List.length_append, BoundedQueue.length_toList, BoundedQueue.length_toList,
    List.length_singleton] at hgrown
  exact hgrown

/-- What a link has in common with its replacement is not changed by replacing it. -/
lemma Link.map_set_of_eq {β : Type} {f : Link → β} {links : List Link} {place : Nat}
    {link link' : Link} (hfound : links[place]? = some link) (hf : f link' = f link) :
    (links.set place link').map f = links.map f := by
  have hplace : (links.map f)[place]? = some (f link) := by
    rw [List.getElem?_map, hfound, Option.map_some]
  obtain ⟨hlt, hget⟩ := List.getElem?_eq_some_iff.1 hplace
  rw [List.map_set, hf, ← hget, List.set_getElem_self]

namespace Pipeline

variable {pipeline pipeline' : Pipeline} {place : Nat} {link : Link} {superpage : Superpage}

/-- The pipeline after a superpage was queued on the link at `place`. -/
structure Enqueued (pipeline : Pipeline) (place : Nat) (link : Link) (superpage : Superpage)
    (pipeline' : Pipeline) : Prop where
  found : pipeline.links[place]? = some link
  slots_pos : 0 < pipeline.slots
  exists_queue : ∃ queue, link.queue.push superpage = .ok queue ∧
    pipeline' = { pipeline with
      links := pipeline.links.set place { link with queue }
      slots := pipeline.slots - 1 }

structure Advanced (pipeline : Pipeline) (quotas : List Nat) (pipeline' : Pipeline)
    (moves : List (LinkId × Nat)) : Prop where
  passed : PassedAll pipeline.links pipeline.ready quotas pipeline'.links pipeline'.ready moves
  linkCapacity : pipeline'.linkCapacity = pipeline.linkCapacity
  slots : pipeline'.slots = pipeline.slots + totalMoved moves

lemma Advanced.refl (pipeline : Pipeline) : Advanced pipeline [] pipeline [] where
  passed := .rest (.inr rfl)
  linkCapacity := rfl
  slots := rfl

structure Popped (pipeline : Pipeline) (superpage : Superpage) (pipeline' : Pipeline) :
    Prop where
  taken : pipeline.ready.toList = superpage :: pipeline'.ready.toList
  capacity : pipeline'.ready.capacity = pipeline.ready.capacity
  links : pipeline'.links = pipeline.links
  linkCapacity : pipeline'.linkCapacity = pipeline.linkCapacity
  slots : pipeline'.slots = pipeline.slots

/-- The chosen link has room, so that queueing on it succeeds. -/
theorem exists_enqueued (h : pipeline.nextLink = .ok (place, link)) (superpage : Superpage) :
    ∃ pipeline', pipeline.enqueue place link superpage = .ok pipeline' ∧
      Enqueued pipeline place link superpage pipeline' := by
  obtain ⟨hslots, hfewest, hroom⟩ := chosen_of_nextLink h
  obtain ⟨queue, hqueue⟩ := BoundedQueue.exists_push superpage hroom
  refine ⟨_, ?_, hfewest.found, hslots, queue, hqueue, rfl⟩
  simp only [enqueue, hqueue]

theorem exists_advanced (pipeline : Pipeline) (quotas : List Nat) :
    ∃ pipeline' moves, pipeline.advance quotas = .ok (pipeline', moves) ∧
      Advanced pipeline quotas pipeline' moves := by
  obtain ⟨links', ready', moves, hmoves, hpassed⟩ :=
    moveAllToReady_passes pipeline.links pipeline.ready quotas
  refine ⟨{ pipeline with
    links := links'
    ready := ready'
    slots := pipeline.slots + totalMoved moves }, moves, ?_, hpassed, rfl, rfl⟩
  simp only [advance, hmoves]

lemma Enqueued.mem_links (h : Enqueued pipeline place link superpage pipeline')
    (hids : (pipeline.links.map Link.id).Nodup) {link' : Link} (hlink : link' ∈ pipeline'.links) :
    (∃ queue, link.queue.push superpage = .ok queue ∧ link' = { link with queue }) ∨
      (link' ∈ pipeline.links ∧ link'.id ≠ link.id) := by
  obtain ⟨queue, hqueue, rfl⟩ := h.exists_queue
  obtain ⟨i, hi⟩ := List.getElem?_of_mem hlink
  dsimp only at hi
  rw [List.getElem?_set] at hi
  by_cases hplace : place = i
  · rw [if_pos hplace] at hi
    split at hi
    · exact .inl ⟨queue, hqueue, (Option.some.inj hi).symm⟩
    · simp at hi
  · rw [if_neg hplace] at hi
    refine .inr ⟨List.mem_of_getElem? hi, ?_⟩
    intro hid
    have hlt : i < (pipeline.links.map Link.id).length := by
      rw [List.length_map]
      exact (List.getElem?_eq_some_iff.1 hi).1
    have heq : (pipeline.links.map Link.id)[i]? = (pipeline.links.map Link.id)[place]? := by
      rw [List.getElem?_map, List.getElem?_map, hi, h.found, Option.map_some, Option.map_some,
        hid]
    exact hplace (((List.getElem?_inj hlt hids).1 heq).symm)

lemma Enqueued.map_eq {β : Type} {f : Link → β}
    (h : Enqueued pipeline place link superpage pipeline')
    (hf : ∀ queue, link.queue.push superpage = .ok queue → f { link with queue } = f link) :
    pipeline'.links.map f = pipeline.links.map f := by
  obtain ⟨queue, hqueue, rfl⟩ := h.exists_queue
  exact Link.map_set_of_eq h.found (hf queue hqueue)

lemma Enqueued.map_id (h : Enqueued pipeline place link superpage pipeline') :
    pipeline'.links.map Link.id = pipeline.links.map Link.id :=
  h.map_eq fun _ _ => rfl

lemma popped_of_pop (h : pipeline.pop = .ok (superpage, pipeline')) :
    Popped pipeline superpage pipeline' := by
  unfold pop at h
  cases hp : pipeline.ready.pop with
  | error refusal => simp [hp] at h
  | ok taken =>
    obtain ⟨superpage', ready⟩ := taken
    simp only [hp, Except.ok.injEq, Prod.mk.injEq] at h
    obtain ⟨rfl, rfl⟩ := h
    exact ⟨BoundedQueue.toList_of_pop hp, BoundedQueue.capacity_of_pop hp, rfl, rfl, rfl⟩

/-- All that an operation on a channel can do to its pipeline. -/
inductive Update : Pipeline → Pipeline → Prop
  | keep (pipeline : Pipeline) : Update pipeline pipeline
  | clear (pipeline : Pipeline) : Update pipeline pipeline.clear
  | enqueue {pipeline pipeline' : Pipeline} {place : Nat} {link : Link} {superpage : Superpage}
      (h : Enqueued pipeline place link superpage pipeline') : Update pipeline pipeline'
  | advance {pipeline pipeline' : Pipeline} {quotas : List Nat} {moves : List (LinkId × Nat)}
      (h : Advanced pipeline quotas pipeline' moves) : Update pipeline pipeline'
  | pop {pipeline pipeline' : Pipeline} {superpage : Superpage}
      (h : Popped pipeline superpage pipeline') : Update pipeline pipeline'

theorem Update.map_id (h : Update pipeline pipeline') :
    pipeline'.links.map Link.id = pipeline.links.map Link.id := by
  cases h with
  | keep => rfl
  | clear =>
    unfold Pipeline.clear
    rw [List.map_map]
    rfl
  | enqueue h => exact h.map_id
  | advance h => exact h.passed.map_id
  | pop h => rw [h.links]

lemma Update.linkCapacity (h : Update pipeline pipeline') :
    pipeline'.linkCapacity = pipeline.linkCapacity := by
  cases h with
  | keep => rfl
  | clear => rfl
  | enqueue h =>
    obtain ⟨_, _, rfl⟩ := h.exists_queue
    rfl
  | advance h => exact h.linkCapacity
  | pop h => exact h.linkCapacity

lemma Update.readyCapacity (h : Update pipeline pipeline') :
    pipeline'.ready.capacity = pipeline.ready.capacity := by
  cases h with
  | keep => rfl
  | clear => exact BoundedQueue.capacity_clear _
  | enqueue h =>
    obtain ⟨_, _, rfl⟩ := h.exists_queue
    rfl
  | advance h => exact h.passed.capacity
  | pop h => exact h.capacity

lemma Update.map_clear (h : Update pipeline pipeline') :
    pipeline'.links.map Link.clear = pipeline.links.map Link.clear := by
  cases h with
  | keep => rfl
  | clear =>
    unfold Pipeline.clear
    rw [List.map_map]
    apply List.map_congr_left
    intro link _
    exact Link.clear_congr rfl (BoundedQueue.capacity_clear _)
  | enqueue h =>
    exact h.map_eq fun queue hqueue =>
      Link.clear_congr rfl (BoundedQueue.capacity_of_push hqueue)
  | advance h =>
    exact h.passed.map_eq fun _ _ _ hshed => Link.clear_congr hshed.id hshed.capacity
  | pop h => rw [h.links]

/-- Whatever was done to a pipeline, it makes no difference once all is forgotten. -/
theorem Update.clear_eq (h : Update pipeline pipeline') :
    pipeline'.clear = pipeline.clear := by
  have hlength := congrArg List.length h.map_clear
  rw [List.length_map, List.length_map] at hlength
  unfold Pipeline.clear transferCapacity BoundedQueue.clear
  rw [h.map_clear, h.readyCapacity, h.linkCapacity, hlength]

/-- Nothing is queued, nothing is counted, and every slot is free. -/
structure Blank (pipeline : Pipeline) : Prop where
  links : ∀ link ∈ pipeline.links, link.queue.toList = [] ∧ link.counter = 0
  ready : pipeline.ready.toList = []
  slots : pipeline.slots = pipeline.linkCapacity * pipeline.links.length

lemma blank_clear (pipeline : Pipeline) : pipeline.clear.Blank where
  links link hlink := by
    obtain ⟨old, -, rfl⟩ := List.mem_map.1 hlink
    exact ⟨BoundedQueue.toList_clear old.queue, rfl⟩
  ready := BoundedQueue.toList_clear pipeline.ready
  slots := by
    unfold clear transferCapacity
    rw [List.length_map]

lemma blank_idle (ids : List LinkId) (linkCapacity readyCapacity : Nat) :
    (idle ids linkCapacity readyCapacity).Blank where
  links link hlink := by
    obtain ⟨id, -, rfl⟩ := List.mem_map.1 hlink
    exact ⟨BoundedQueue.toList_empty linkCapacity, rfl⟩
  ready := BoundedQueue.toList_empty readyCapacity
  slots := by
    unfold idle
    rw [List.length_map]

end Pipeline

end DmaReadout
