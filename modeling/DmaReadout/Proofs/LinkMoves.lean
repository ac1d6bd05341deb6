import DmaReadout.Pipeline
import Mathlib.Tactic.Lemma

/-!
# Moving superpages off the links

A pass over the links takes superpages from their fronts and puts them behind those in the
ready queue. This file says what one pass does: how much it takes from every link, in which
order the superpages arrive, and that neither kind of queue ever refuses.
-/

namespace DmaReadout.Link

/-- How many superpages a link can give to the ready queue, given its quota. -/
def share (link : Link) (ready : BoundedQueue Superpage) (quota : Nat) : Nat :=
  min quota (min link.pending (ready.capacity - ready.length))

/-- The link has lost its `count` oldest superpages, and has counted them. -/
structure Shed (link : Link) (count : Nat) (link' : Link) : Prop where
  id : link'.id = link.id
  capacity : link'.queue.capacity = link.queue.capacity
  counter : link'.counter = link.counter + UInt32.ofNat count
  taken : link.queue.toList = link.queue.toList.take count ++ link'.queue.toList
  count_le : count ≤ link.pending

lemma Shed.pending {link link' : Link} {count : Nat} (h : Shed link count link') :
    link'.pending + count = link.pending := by
  have hl := congrArg List.length h.taken
  have hc := h.count_le
  rw [List.length_append, List.length_take, BoundedQueue.length_toList,
    BoundedQueue.length_toList] at hl
  unfold Link.pending at hc ⊢
  omega

lemma Shed.queue {link link' : Link} {count : Nat} (h : Shed link count link') :
    link'.queue.toList = link.queue.toList.drop count := by
  have hlength : (link.queue.toList.take count).length = count := by
    have hcount := h.count_le
    unfold Link.pending at hcount
    rw [List.length_take, BoundedQueue.length_toList]
    omega
  have hdrop := congrArg (List.drop count) h.taken
  rw [List.drop_left' hlength] at hdrop
  exact hdrop.symm

lemma Shed.zero (link : Link) : Shed link 0 link where
  id := rfl
  capacity := rfl
  counter := by simp
  taken := rfl
  count_le := Nat.zero_le _

lemma counter_succ (counter : UInt32) (count : Nat) :
    counter + 1 + UInt32.ofNat count = counter + UInt32.ofNat (count + 1) := by
  rw [UInt32.ofNat_add, UInt32.add_assoc, UInt32.add_comm 1]
  rfl

/-- What a cleared link keeps. -/
lemma clear_congr {link link' : Link} (hid : link'.id = link.id)
    (hcapacity : link'.queue.capacity = link.queue.capacity) : link'.clear = link.clear := by
  unfold clear BoundedQueue.clear
  rw [hid, hcapacity]

/-- The queues have passed `count` superpages from the link to the ready queue. -/
structure Passed (link : Link) (ready : BoundedQueue Superpage) (count : Nat) (link' : Link)
    (ready' : BoundedQueue Superpage) : Prop where
  shed : Shed link count link'
  capacity : ready'.capacity = ready.capacity
  given : ready'.toList = ready.toList ++ (link.queue.toList.take count).map Superpage.markReady

lemma Passed.cons {link link' : Link} {ready ready' ready'' : BoundedQueue Superpage}
    {superpage : Superpage} {queue : BoundedQueue Superpage} {count : Nat}
    (hpop : link.queue.pop = .ok (superpage, queue))
    (hpush : ready.push superpage.markReady = .ok ready')
    (h : Passed { link with queue, counter := link.counter + 1 } ready' count link' ready'') :
    Passed link ready (count + 1) link' ready'' := by
  have hq := BoundedQueue.toList_of_pop hpop
  have hc := h.shed.count_le
  have hl := congrArg List.length hq
  rw [List.length_cons, BoundedQueue.length_toList, BoundedQueue.length_toList] at hl
  refine ⟨⟨h.shed.id, ?_, ?_, ?_, ?_⟩, ?_, ?_⟩
  · rw [h.shed.capacity]
    exact BoundedQueue.capacity_of_pop hpop
  · rw [h.shed.counter]
    exact counter_succ _ _
  · rw [hq, List.take_succ_cons, List.cons_append]
    exact congrArg _ h.shed.taken
  · unfold Link.pending at hc ⊢
    dsimp only at hc
    omega
  · rw [h.capacity, BoundedQueue.capacity_of_push hpush]
  · rw [h.given, BoundedQueue.toList_of_push hpush, hq, List.take_succ_cons, List.map_cons,
      List.append_assoc]
    rfl

/-- Neither queue refuses, and a link gives what quota, supply and room allow. -/
theorem moveToReady_passes (link : Link) (ready : BoundedQueue Superpage) (quota : Nat) :
    ∃ link' ready', link.moveToReady ready quota = .ok (link', ready', link.share ready quota) ∧
      Passed link ready (link.share ready quota) link' ready' := by
  induction quota generalizing link ready with
  | zero =>
    have hs : link.share ready 0 = 0 := Nat.zero_min _
    rw [hs]
    exact ⟨link, ready, rfl, ⟨Shed.zero link, rfl, by simp⟩⟩
  | succ quota ih =>
    have hroom := ready.length_le_capacity
    by_cases hstop : (link.queue.isEmpty || ready.isFull) = true
    · have hs : link.share ready (quota + 1) = 0 := by
        unfold share Link.pending
        simp only [BoundedQueue.isEmpty, BoundedQueue.isFull, Bool.or_eq_true, beq_iff_eq] at hstop
        omega
      refine ⟨link, ready, ?_, ?_⟩
      · rw [moveToReady, if_pos hstop, hs]
      · rw [hs]
        exact ⟨Shed.zero link, rfl, by simp⟩
    · obtain ⟨hempty, hfull⟩ := (Bool.or_eq_false_iff).1 (Bool.eq_false_iff.2 hstop)
      obtain ⟨superpage, queue, hpop⟩ := BoundedQueue.exists_pop hempty
      obtain ⟨ready₁, hpush⟩ := BoundedQueue.exists_push superpage.markReady hfull
      obtain ⟨link', ready', hrest, hpassed⟩ :=
        ih { link with queue, counter := link.counter + 1 } ready₁
      have hl := congrArg List.length (BoundedQueue.toList_of_pop hpop)
      have hr := congrArg List.length (BoundedQueue.toList_of_push hpush)
      have hs : link.share ready (quota + 1) =
          share { link with queue, counter := link.counter + 1 } ready₁ quota + 1 := by
        simp only [List.length_cons, List.length_append, List.length_nil,
          BoundedQueue.length_toList] at hl hr
        simp only [BoundedQueue.isFull, beq_eq_false_iff_ne] at hfull
        unfold share Link.pending
        rw [BoundedQueue.capacity_of_push hpush]
        dsimp only
        omega
      refine ⟨link', ready', ?_, ?_⟩
      · rw [moveToReady, if_neg hstop, hs]
        simp only [hpop, hpush, hrest]
      · rw [hs]
        exact hpassed.cons hpop hpush

/-- The pass over several links, each with the quota at its place. -/
inductive PassedAll : List Link → BoundedQueue Superpage → List Nat → List Link →
    BoundedQueue Superpage → List (LinkId × Nat) → Prop
  | rest {links : List Link} {ready : BoundedQueue Superpage} {quotas : List Nat}
      (h : links = [] ∨ quotas = []) : PassedAll links ready quotas links ready []
  | next {link link' : Link} {links links' : List Link}
      {ready ready' ready'' : BoundedQueue Superpage} {quota : Nat} {quotas : List Nat}
      {moves : List (LinkId × Nat)}
      (first : Passed link ready (link.share ready quota) link' ready')
      (others : PassedAll links ready' quotas links' ready'' moves) :
      PassedAll (link :: links) ready (quota :: quotas) (link' :: links') ready''
        ((link.id, link.share ready quota) :: moves)

theorem moveAllToReady_passes (links : List Link) (ready : BoundedQueue Superpage)
    (quotas : List Nat) :
    ∃ links' ready' moves, moveAllToReady links ready quotas = .ok (links', ready', moves) ∧
      PassedAll links ready quotas links' ready' moves := by
  induction links generalizing ready quotas with
  | nil => exact ⟨[], ready, [], rfl, .rest (.inl rfl)⟩
  | cons link links ih =>
    cases quotas with
    | nil => exact ⟨link :: links, ready, [], rfl, .rest (.inr rfl)⟩
    | cons quota quotas =>
      obtain ⟨link', ready', hmove, hfirst⟩ := moveToReady_passes link ready quota
      obtain ⟨links', ready'', moves, hmoves, hothers⟩ := ih ready' quotas
      refine ⟨link' :: links', ready'', _, ?_, .next hfirst hothers⟩
      rw [moveAllToReady, hmove]
      simp only [hmoves, hfirst.shed.id]

/-- What links have lost at their fronts, link by link. -/
def departures : List Link → List Link → List (LinkId × Superpage)
  | link :: links, link' :: links' =>
    (link.queue.toList.take (link.pending - link'.pending)).map (link.id, ·) ++
      departures links links'
  | _, _ => []

lemma departures_self (links : List Link) : departures links links = [] := by
  induction links with
  | nil => rfl
  | cons link links ih => simp [departures, ih]

/-- A link that holds more than before has lost nothing. -/
lemma departures_set {links : List Link} {place : Nat} {link link' : Link}
    (hfound : links[place]? = some link) (hle : link.pending ≤ link'.pending) :
    departures links (links.set place link') = [] := by
  induction links generalizing place with
  | nil => simp at hfound
  | cons first links ih =>
    cases place with
    | zero =>
      rw [List.getElem?_cons_zero, Option.some.injEq] at hfound
      subst hfound
      rw [List.set_cons_zero, departures, departures_self, Nat.sub_eq_zero_of_le hle]
      rfl
    | succ place =>
      rw [List.getElem?_cons_succ] at hfound
      rw [List.set_cons_succ, departures, ih hfound, Nat.sub_self]
      rfl

lemma id_of_mem_departures {links links' : List Link} {entry : LinkId × Superpage}
    (h : entry ∈ departures links links') : entry.1 ∈ links.map Link.id := by
  induction links generalizing links' with
  | nil => simp [departures] at h
  | cons link links ih =>
    cases links' with
    | nil => simp [departures] at h
    | cons link' links' =>
      rw [departures, List.mem_append] at h
      rw [List.map_cons, List.mem_cons]
      rcases h with h | h
      · obtain ⟨superpage, -, rfl⟩ := List.mem_map.1 h
        exact .inl rfl
      · exact .inr (ih h)

namespace PassedAll

variable {links links' : List Link} {ready ready' : BoundedQueue Superpage}
  {quotas : List Nat} {moves : List (LinkId × Nat)}

lemma capacity (h : PassedAll links ready quotas links' ready' moves) :
    ready'.capacity = ready.capacity := by
  induction h with
  | rest => rfl
  | next first _ ih => rw [ih, first.capacity]

/-- What a link keeps when it loses superpages, all links keep. -/
lemma map_eq {β : Type} {f : Link → β} (h : PassedAll links ready quotas links' ready' moves)
    (hf : ∀ link count link', Shed link count link' → f link' = f link) :
    links'.map f = links.map f := by
  induction h with
  | rest => rfl
  | next first _ ih => rw [List.map_cons, List.map_cons, ih, hf _ _ _ first.shed]

lemma map_id (h : PassedAll links ready quotas links' ready' moves) :
    links'.map Link.id = links.map Link.id :=
  h.map_eq fun _ _ _ hshed => hshed.id

/-- Every link has lost some of its superpages, and at most its quota, if the quotas are those
of the links as far as they reach. -/
lemma exists_shed (h : PassedAll links ready quotas links' ready' moves) :
    ∀ link' ∈ links', ∃ link ∈ links, ∃ count, Shed link count link' ∧
      ∀ quota : Link → Nat, quotas <+: links.map quota → count ≤ quota link := by
  induction h with
  | rest =>
    intro link hlink
    exact ⟨link, hlink, 0, Shed.zero link, fun _ _ => Nat.zero_le _⟩
  | @next first first' _ _ _ _ _ _ _ _ hfirst _ ih =>
    intro link' hlink'
    rcases List.mem_cons.1 hlink' with rfl | hlink'
    · refine ⟨first, List.mem_cons_self, _, hfirst.shed, ?_⟩
      intro quota hquota
      rw [List.map_cons, List.cons_prefix_cons] at hquota
      rw [← hquota.1]
      exact Nat.min_le_left _ _
    · obtain ⟨link, hlink, count, hshed, hbound⟩ := ih link' hlink'
      refine ⟨link, List.mem_cons_of_mem _ hlink, count, hshed, ?_⟩
      intro quota hquota
      rw [List.map_cons, List.cons_prefix_cons] at hquota
      exact hbound quota hquota.2

/-- What arrives in the ready queue is what the links have lost, in order. -/
lemma arrived (h : PassedAll links ready quotas links' ready' moves) :
    ready'.toList =
      ready.toList ++ (departures links links').map fun entry => entry.2.markReady := by
  induction h with
  | rest => simp [departures_self]
  | @next link link' links links' ready ready' ready'' quota _ _ first _ ih =>
    have hl : link.pending - link'.pending = link.share ready quota := by
      have := first.shed.pending
      omega
    rw [ih, first.given, departures, hl, List.map_append, List.map_map, List.append_assoc]
    rfl

lemma totalPending (h : PassedAll links ready quotas links' ready' moves) :
    Link.totalPending links' + totalMoved moves = Link.totalPending links := by
  induction h with
  | rest => rfl
  | next first _ ih =>
    have := first.shed.pending
    simp only [Link.totalPending, totalMoved]
    omega

end PassedAll

end DmaReadout.Link
