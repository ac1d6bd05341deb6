import DmaReadout.Proofs.IdealCounts
import DmaReadout.Proofs.WrappedCounters
import Mathlib.Data.List.Forall2

/-!
# Wrapping counters refine ideal ones

As long as the card has completed what the driver took off a link, and not 2^32 superpages more,
the wrapped difference of their counts is the true one. So a channel goes through every run as an
ideal channel does, however often the counters wrap.
-/

namespace DmaReadout

open Link (PassedAll)
open Pipeline (Advanced Update)

variable {κ : Type}

/-- The link is the ideal one, with its count reduced modulo 2^32. -/
structure Link.Wraps (capacity : Nat) (link : Link) (ideal : IdealLink) : Prop where
  id : link.id = ideal.id
  queue : link.queue.toList = ideal.queue
  counter : link.counter = UInt32.ofNat ideal.moved
  capacity : link.queue.capacity = capacity

/-- The channel is the ideal one, with its counts reduced modulo 2^32. -/
structure Channel.Wraps (channel : Channel κ) (ideal : IdealChannel κ) : Prop where
  links : List.Forall₂ (Link.Wraps ideal.linkCapacity) channel.pipeline.links ideal.links
  ready : channel.pipeline.ready.toList = ideal.ready
  linkCapacity : channel.pipeline.linkCapacity = ideal.linkCapacity
  readyCapacity : channel.pipeline.ready.capacity = ideal.readyCapacity
  slots : channel.pipeline.slots = ideal.slots
  card : channel.card = ideal.card.card

section Pairs

variable {α β : Type} {R : α → β → Prop} {as : List α} {bs : List β} {a : α} {b : β}

lemma forall₂_set {place : Nat} (h : List.Forall₂ R as bs) (hab : R a b) :
    List.Forall₂ R (as.set place a) (bs.set place b) := by
  induction h generalizing place with
  | nil => exact .nil
  | cons hfirst hrest ih =>
    cases place with
    | zero => exact .cons hab hrest
    | succ place => exact .cons hfirst ih

lemma forall₂_find? {p : α → Bool} {q : β → Bool} (h : List.Forall₂ R as bs)
    (hpq : ∀ a b, R a b → p a = q b) :
    (as.find? p = none ∧ bs.find? q = none) ∨
      ∃ a b, as.find? p = some a ∧ bs.find? q = some b ∧ R a b := by
  induction h with
  | nil => exact .inl ⟨rfl, rfl⟩
  | @cons first first' _ _ hfirst hrest ih =>
    rw [List.find?_cons, List.find?_cons, hpq first first' hfirst]
    cases q first' with
    | true => exact .inr ⟨first, first', rfl, rfl, hfirst⟩
    | false => exact ih

end Pairs

section Links

variable {capacity : Nat} {link : Link} {ideal : IdealLink} {links : List Link}
  {ideals : List IdealLink}

lemma Link.Wraps.pending (h : link.Wraps capacity ideal) : link.pending = ideal.queue.length := by
  rw [← h.queue, BoundedQueue.length_toList]
  rfl

lemma Link.Wraps.isFull (h : link.Wraps capacity ideal) :
    link.queue.isFull = decide (ideal.queue.length = capacity) := by
  have hpending : link.queue.length = ideal.queue.length := h.pending
  unfold BoundedQueue.isFull
  rw [hpending, h.capacity]
  rfl

/-- A fair read gives the true number of arrivals. -/
lemma Link.Wraps.arrivals (h : link.Wraps capacity ideal) {completed : Nat} {reply : UInt32}
    (hfair : CounterRead.Fair ⟨ideal.moved, completed, reply⟩) :
    (link.arrivals reply).toNat = completed - ideal.moved := by
  have hreply : reply = UInt32.ofNat completed := hfair.1
  unfold Link.arrivals
  rw [h.counter, hreply]
  exact toNat_ofNat_sub hfair.2.1 hfair.2.2

lemma Link.Wraps.shed (h : link.Wraps capacity ideal) {count : Nat} {link' : Link}
    (hshed : Link.Shed link count link') : link'.Wraps capacity (ideal.shed count) where
  id := hshed.id.trans h.id
  queue := by
    rw [hshed.queue, h.queue]
    rfl
  counter := by
    rw [hshed.counter, h.counter, ← UInt32.ofNat_add]
    rfl
  capacity := hshed.capacity.trans h.capacity

lemma leastLoaded_wraps (h : List.Forall₂ (Link.Wraps capacity) links ideals) :
    (Link.leastLoaded links = none ∧ IdealLink.leastLoaded ideals = none) ∨
      ∃ place link ideal, Link.leastLoaded links = some (place, link) ∧
        IdealLink.leastLoaded ideals = some (place, ideal) ∧ link.Wraps capacity ideal := by
  induction h with
  | nil => exact .inl ⟨rfl, rfl⟩
  | @cons first first' links ideals hfirst hlinks ih =>
    rw [Link.leastLoaded, IdealLink.leastLoaded]
    rcases ih with ⟨hnone, hnone'⟩ | ⟨place, best, best', hbest, hbest', hwraps⟩
    · rw [hnone, hnone']
      exact .inr ⟨0, first, first', rfl, rfl, hfirst⟩
    · rw [hbest, hbest']
      dsimp only
      rw [hfirst.pending, hwraps.pending]
      by_cases hle : first'.queue.length ≤ best'.queue.length
      · rw [if_pos hle, if_pos hle]
        exact .inr ⟨0, first, first', rfl, rfl, hfirst⟩
      · rw [if_neg hle, if_neg hle]
        exact .inr ⟨place + 1, best, best', rfl, rfl, hwraps⟩

/-- A pass over the links takes as many superpages off each as in an ideal channel. -/
lemma moveAll_wraps {ready ready' : BoundedQueue Superpage} {quotas : List Nat}
    {links' : List Link} {moves : List (LinkId × Nat)}
    (hpassed : PassedAll links ready quotas links' ready' moves)
    (h : List.Forall₂ (Link.Wraps capacity) links ideals) :
    ∃ ideals', IdealLink.moveAll ready.capacity ideals ready.toList quotas =
        (ideals', ready'.toList, Link.totalMoved moves) ∧
      List.Forall₂ (Link.Wraps capacity) links' ideals' := by
  induction hpassed generalizing ideals with
  | rest hrest =>
    refine ⟨ideals, ?_, h⟩
    rcases hrest with rfl | rfl
    · cases h
      rfl
    · cases ideals <;> rfl
  | @next link link' links links' ready ready' ready'' quota quotas moves hfirst _ ih =>
    cases h with
    | @cons _ ideal _ ideals hlink hlinks =>
      obtain ⟨ideals', hmoves, hwraps⟩ := ih hlinks
      have hshare : min quota (min ideal.queue.length (ready.capacity - ready.toList.length)) =
          link.share ready quota := by
        unfold Link.share
        rw [hlink.pending, BoundedQueue.length_toList]
      rw [IdealLink.moveAll, hshare, ← hlink.queue, ← hfirst.given, ← hfirst.capacity, hmoves]
      exact ⟨_, rfl, .cons (hlink.shed hfirst.shed) hwraps⟩

end Links

section Reads

variable {capacity : Nat} {links : List Link} {ideals : List IdealLink} {endpoint : Endpoint κ}

/-- A poll finds what a poll of ideal links finds. -/
lemma pollArrivals_wraps (h : List.Forall₂ (Link.Wraps capacity) links ideals)
    (channel : Channel κ) (counts : Stream' Nat)
    (hfair : ∀ read ∈ (CountedCard.poll endpoint.registers ideals ⟨channel.card, counts⟩).reads,
      read.Fair) :
    let polled := CountedCard.poll endpoint.registers ideals ⟨channel.card, counts⟩
    Ensures (endpoint.pollArrivals links) channel
      (fun arrivals last => last.card = polled.state.card ∧ polled.answer = .ok arrivals)
      (fun e last => last.card = polled.state.card ∧
        ∃ error, polled.answer = .error error ∧ error.wrap = e) := by
  induction h generalizing channel counts with
  | nil => exact ⟨rfl, rfl⟩
  | @cons link ideal links ideals hlink hlinks ih =>
    obtain ⟨id, queue, moved⟩ := ideal
    obtain rfl : link.id = id := hlink.id
    dsimp only
    rw [Endpoint.pollArrivals, ensures_bind, Endpoint.ensures_access]
    constructor
    · intro reply card hperform
      by_cases hexcess : counts.head - moved > queue.length
      · rw [CountedCard.poll_excess hperform hexcess] at hfair ⊢
        have hread := hfair _ (List.mem_singleton_self _)
        rw [hlink.arrivals hread, hlink.pending, if_pos hexcess]
        refine ⟨rfl, _, rfl, ?_⟩
        rw [IdealError.wrap, ← hread.1, hlink.counter]
      · rw [CountedCard.poll_next hperform hexcess] at hfair ⊢
        obtain ⟨hread, hrest⟩ := List.forall_mem_cons.1 hfair
        rw [hlink.arrivals hread, hlink.pending, if_neg hexcess, ensures_bind]
        apply (ih { channel with card } counts.tail hrest).mono
        · rintro arrivals last ⟨hcard, hanswer⟩
          refine ⟨hcard, ?_⟩
          dsimp only at hanswer ⊢
          rw [hanswer]
          rfl
        · rintro e last ⟨hcard, error, hanswer, hwrap⟩
          refine ⟨hcard, error, ?_, hwrap⟩
          dsimp only at hanswer ⊢
          rw [hanswer]
          rfl
    · intro fault card hperform
      rw [CountedCard.poll_fault hperform]
      exact ⟨rfl, _, rfl, rfl⟩

lemma readArrivals_wraps (h : List.Forall₂ (Link.Wraps capacity) links ideals)
    (channel : Channel κ) (counts : Stream' Nat)
    (hfair : ∀ read ∈ (CountedCard.readAll endpoint.registers ideals ⟨channel.card, counts⟩).reads,
      read.Fair) :
    let read := CountedCard.readAll endpoint.registers ideals ⟨channel.card, counts⟩
    Ensures (endpoint.readArrivals links) channel
      (fun answer last => last.card = read.state.card ∧ answer = read.answer)
      (fun _ _ => False) := by
  induction h generalizing channel counts with
  | nil => exact ⟨rfl, rfl⟩
  | @cons link ideal links ideals hlink hlinks ih =>
    obtain ⟨id, queue, moved⟩ := ideal
    obtain rfl : link.id = id := hlink.id
    dsimp only
    rw [Endpoint.readArrivals, ensures_bind, Endpoint.ensures_perform]
    rintro (fault | reply) card hperform
    · rw [CountedCard.readAll_fault hperform]
      exact ⟨rfl, rfl⟩
    · rw [CountedCard.readAll_next hperform] at hfair ⊢
      obtain ⟨hread, hrest⟩ := List.forall_mem_cons.1 hfair
      have harrived := hlink.arrivals hread
      let rest := CountedCard.readAll endpoint.registers ideals ⟨card, counts.tail⟩
      have hnext (answer : List Nat × Option Fault) (last : Channel κ)
          (hlast : last.card = rest.state.card ∧ answer = rest.answer) :
          last.card = rest.state.card ∧ ((link.arrivals reply).toNat :: answer.1, answer.2) =
            ((counts.head - moved) :: rest.answer.1, rest.answer.2) := by
        obtain ⟨hcard, rfl⟩ := hlast
        rw [harrived]
        exact ⟨hcard, rfl⟩
      dsimp only
      split
      · rw [ensures_bind, Channel.ensures_note, ensures_bind]
        exact (ih _ counts.tail hrest).mono hnext (fun _ _ hfalse => hfalse)
      · rw [ensures_bind]
        exact (ih _ counts.tail hrest).mono hnext (fun _ _ hfalse => hfalse)

end Reads

/-- The program ends as the outcome says, but for the counts. -/
def Outcome.Describes {α : Type} (outcome : Outcome (IdealChannel κ) (Except IdealError α))
    (program : ChannelM κ α) (channel : Channel κ) : Prop :=
  Ensures program channel
    (fun a last => outcome.answer = .ok a ∧ last.Wraps outcome.state)
    (fun e last => (∃ error, outcome.answer = .error error ∧ error.wrap = e) ∧
      last.Wraps outcome.state)

namespace Outcome.Describes

variable {α : Type} {outcome : Outcome (IdealChannel κ) (Except IdealError α)}
  {program : ChannelM κ α} {channel : Channel κ}

lemma lastState (h : outcome.Describes program channel) :
    (lastState program channel).Wraps outcome.state := by
  have hlast : Ensures program channel (fun _ last => last.Wraps outcome.state)
      (fun _ last => last.Wraps outcome.state) :=
    h.mono (fun _ _ hlast => hlast.2) (fun _ _ hlast => hlast.2)
  exact hlast.of_lastState

lemma answer_eq (h : outcome.Describes program channel) :
    DmaReadout.answer program channel = outcome.answer.mapError IdealError.wrap := by
  unfold Outcome.Describes Ensures at h
  unfold DmaReadout.answer
  cases hrun : program channel with
  | ok a last =>
    rw [hrun] at h
    rw [h.1]
    rfl
  | error e last =>
    rw [hrun] at h
    obtain ⟨⟨error, hanswer, rfl⟩, -⟩ := h
    rw [hanswer]
    rfl

end Outcome.Describes

namespace Channel.Wraps

variable {endpoint : Endpoint κ} {channel : Channel κ} {ideal : IdealChannel κ}

lemma transferCapacity (h : channel.Wraps ideal) :
    channel.pipeline.transferCapacity = ideal.transferCapacity := by
  unfold Pipeline.transferCapacity IdealChannel.transferCapacity
  rw [h.linkCapacity, h.links.length_eq]

lemma withCard (h : channel.Wraps ideal) {card : CountedCard κ} {last : Channel κ}
    (hstanding : last.standing = channel.standing) (hcard : last.card = card.card) :
    last.Wraps { ideal with card } := by
  obtain ⟨hlinks, hready, hlinkCapacity, hreadyCapacity, hslots, -⟩ := h
  rw [← Channel.pipeline_of_standing hstanding] at hlinks hready hlinkCapacity hreadyCapacity hslots
  exact ⟨hlinks, hready, hlinkCapacity, hreadyCapacity, hslots, hcard⟩

lemma advance (h : channel.Wraps ideal) {quotas : List Nat} {pipeline : Pipeline}
    {moves : List (LinkId × Nat)} (hadvanced : Advanced channel.pipeline quotas pipeline moves)
    (journal : Journal) :
    (ideal.advance quotas).2 = Link.totalMoved moves ∧
      Channel.Wraps { channel with pipeline, journal } (ideal.advance quotas).1 := by
  obtain ⟨ideals', hmoves, hlinks⟩ := moveAll_wraps hadvanced.passed h.links
  rw [h.ready, h.readyCapacity] at hmoves
  unfold IdealChannel.advance
  rw [hmoves]
  refine ⟨rfl, hlinks, rfl, ?_, ?_, ?_, h.card⟩
  · exact hadvanced.linkCapacity.trans h.linkCapacity
  · exact hadvanced.passed.capacity.trans h.readyCapacity
  · rw [hadvanced.slots, h.slots]

lemma nextLink (h : channel.Wraps ideal) :
    (∃ e, channel.pipeline.nextLink = .error e ∧ ideal.nextLink = .error e) ∨
      ∃ place link idealLink, channel.pipeline.nextLink = .ok (place, link) ∧
        ideal.nextLink = .ok (place, idealLink) ∧ link.Wraps ideal.linkCapacity idealLink := by
  unfold Pipeline.nextLink Pipeline.checkCapacity IdealChannel.nextLink
  rw [← h.slots]
  by_cases hslots : channel.pipeline.slots = 0
  · rw [if_pos hslots, if_pos hslots]
    exact .inl ⟨_, rfl, rfl⟩
  · rw [if_neg hslots, if_neg hslots]
    rcases leastLoaded_wraps h.links with
      ⟨hnone, hnone'⟩ | ⟨place, link, idealLink, hleast, hleast', hlink⟩
    · rw [hnone, hnone']
      exact .inl ⟨_, rfl, rfl⟩
    · rw [hleast, hleast']
      dsimp only
      rw [hlink.isFull]
      by_cases hfull : idealLink.queue.length = ideal.linkCapacity
      · rw [if_pos (decide_eq_true hfull), if_pos hfull, hlink.id, hlink.capacity]
        exact .inl ⟨_, rfl, rfl⟩
      · rw [if_neg (by simpa using hfull), if_neg hfull]
        exact .inr ⟨place, link, idealLink, rfl, rfl, hlink⟩

theorem push (h : channel.Wraps ideal) (superpage : Superpage) (pages : UInt32)
    (busAddress : UInt64) :
    (ideal.push endpoint superpage pages busAddress).Describes
      (endpoint.submit superpage pages busAddress) channel := by
  unfold Outcome.Describes Endpoint.submit IdealChannel.push
  rw [ensures_bind, ensures_get, ensures_bind]
  rcases h.nextLink with
    ⟨e, hnext, hnext'⟩ | ⟨place, link, ⟨id, queue, moved⟩, hnext, hnext', hlink⟩
  · rw [hnext, hnext']
    exact ⟨⟨.plain e, rfl, rfl⟩, h⟩
  · obtain rfl : link.id = id := hlink.id
    obtain ⟨pipeline, henqueue, henqueued⟩ := Pipeline.exists_enqueued hnext superpage
    obtain ⟨queue', hqueue, rfl⟩ := henqueued.exists_queue
    rw [hnext, hnext', ← h.card]
    change Ensures (endpoint.access (.write (.pushSuperpage link.id pages busAddress)) >>= _)
      channel _ _
    rw [ensures_bind, Endpoint.ensures_access]
    constructor
    · intro reply card hperform
      have hpushed : Link.Wraps ideal.linkCapacity { link with queue := queue' }
          ⟨link.id, queue ++ [superpage], moved⟩ := by
        refine ⟨rfl, ?_, hlink.counter, ?_⟩
        · rw [BoundedQueue.toList_of_push hqueue, hlink.queue]
        · exact (BoundedQueue.capacity_of_push hqueue).trans hlink.capacity
      rw [ensures_bind, ensures_get, henqueue, ensures_bind]
      dsimp only
      rw [hperform]
      exact ⟨rfl, forall₂_set h.links hpushed, h.ready, h.linkCapacity, h.readyCapacity,
        congrArg (· - 1) h.slots, rfl⟩
    · intro fault card hperform
      dsimp only
      rw [hperform]
      exact ⟨⟨_, rfl, rfl⟩, h.withCard rfl rfl⟩

lemma pollArrivals (h : channel.Wraps ideal)
    (hfair : ∀ read ∈ (ideal.card.poll endpoint.registers ideal.links).reads, read.Fair) :
    let polled := ideal.card.poll endpoint.registers ideal.links
    Ensures (endpoint.pollArrivals channel.pipeline.links) channel
      (fun arrivals last => last.card = polled.state.card ∧ polled.answer = .ok arrivals)
      (fun e last => last.card = polled.state.card ∧
        ∃ error, polled.answer = .error error ∧ error.wrap = e) := by
  have hcard : ideal.card = ⟨channel.card, ideal.card.counts⟩ := by rw [h.card]
  rw [hcard] at hfair ⊢
  exact pollArrivals_wraps h.links channel ideal.card.counts hfair

lemma readArrivals (h : channel.Wraps ideal)
    (hfair : ∀ read ∈ (ideal.card.readAll endpoint.registers ideal.links).reads, read.Fair) :
    let read := ideal.card.readAll endpoint.registers ideal.links
    Ensures (endpoint.readArrivals channel.pipeline.links) channel
      (fun answer last => last.card = read.state.card ∧ answer = read.answer)
      (fun _ _ => False) := by
  have hcard : ideal.card = ⟨channel.card, ideal.card.counts⟩ := by rw [h.card]
  rw [hcard] at hfair ⊢
  exact readArrivals_wraps h.links channel ideal.card.counts hfair

theorem fill (h : channel.Wraps ideal) (hfair : ∀ read ∈ (ideal.fill endpoint).reads, read.Fair) :
    (ideal.fill endpoint).Describes endpoint.collect channel := by
  rw [IdealChannel.reads_fill] at hfair
  have hpoll := (h.pollArrivals hfair).and
    (endpoint.keeps_pollArrivals channel.pipeline.links channel)
  unfold Outcome.Describes IdealChannel.fill
  apply Endpoint.ensures_collect
  apply hpoll.mono
  · rintro arrivals polled ⟨⟨hcard, hanswer⟩, hstanding⟩ pipeline moves hadvanced
    obtain ⟨hmoved, hwraps⟩ := (h.withCard hstanding hcard).advance hadvanced
      (polled.journal.countMoves moves)
    dsimp only
    rw [hanswer]
    exact ⟨congrArg Except.ok hmoved, hwraps⟩
  · rintro e polled ⟨⟨hcard, error, hanswer, hwrap⟩, hstanding⟩
    dsimp only
    rw [hanswer]
    exact ⟨⟨error, rfl, hwrap⟩, h.withCard hstanding hcard⟩

lemma checkDrained (h : channel.Wraps ideal) :
    (channel.pipeline.checkDrained = .ok () ∧ ideal.undrained? = none) ∨
      ∃ e, channel.pipeline.checkDrained = .error e ∧ ideal.undrained? = some e := by
  have hkeeps (link : Link) (idealLink : IdealLink)
      (hlink : link.Wraps ideal.linkCapacity idealLink) :
      (link.pending != 0 || channel.pipeline.slots != channel.pipeline.transferCapacity) =
        (idealLink.queue.length != 0 || ideal.slots != ideal.transferCapacity) := by
    rw [hlink.pending, h.slots, h.transferCapacity]
  unfold Pipeline.checkDrained IdealChannel.undrained?
  dsimp only
  rcases forall₂_find? h.links hkeeps with
    ⟨hnone, hnone'⟩ | ⟨link, idealLink, hfound, hfound', hlink⟩
  · rw [hnone, hnone']
    exact .inl ⟨rfl, rfl⟩
  · rw [hfound, hfound']
    refine .inr ⟨_, rfl, ?_⟩
    rw [hlink.id, hlink.pending, h.slots, h.transferCapacity]
    rfl

theorem drain (h : channel.Wraps ideal)
    (hfair : ∀ read ∈ (ideal.drain endpoint).reads, read.Fair) :
    (ideal.drain endpoint).Describes endpoint.drain channel := by
  rw [IdealChannel.reads_drain] at hfair
  have hread := (h.readArrivals hfair).and
    (endpoint.keeps_readArrivals channel.pipeline.links channel)
  unfold Outcome.Describes Endpoint.drain IdealChannel.drain
  rw [ensures_bind, ensures_get, ensures_bind]
  apply hread.mono
  · rintro ⟨arrivals, fault?⟩ read ⟨⟨hcard, hanswer⟩, hstanding⟩
    rw [ensures_bind]
    apply Channel.ensures_advance
    intro pipeline moves hadvanced
    obtain ⟨hmoved, hwraps⟩ := (h.withCard hstanding hcard).advance hadvanced
      (read.journal.countMoves moves)
    dsimp only
    rw [← hanswer]
    cases fault? with
    | some fault => exact ⟨⟨_, rfl, rfl⟩, hwraps⟩
    | none =>
      rw [ensures_bind, ensures_get, ensures_bind]
      rcases hwraps.checkDrained with ⟨hdrained, hdrained'⟩ | ⟨e, hkept, hkept'⟩
      · rw [hdrained]
        dsimp only
        rw [hdrained']
        exact ⟨congrArg Except.ok hmoved, hwraps⟩
      · rw [hkept]
        dsimp only
        rw [hkept']
        exact ⟨⟨_, rfl, rfl⟩, hwraps⟩
  · rintro e read ⟨hfalse, -⟩
    exact hfalse.elim

theorem pop (h : channel.Wraps ideal) : ideal.pop.Describes Channel.pop channel := by
  unfold Outcome.Describes Channel.pop IdealChannel.pop
  rw [ensures_bind, ensures_get, ensures_bind, ← h.ready]
  unfold Pipeline.pop
  cases hempty : channel.pipeline.ready.isEmpty with
  | true =>
    have hnil : channel.pipeline.ready.toList = [] := BoundedQueue.toList_of_isEmpty hempty
    rw [BoundedQueue.pop_eq_error hempty, hnil]
    exact ⟨⟨_, rfl, rfl⟩, h⟩
  | false =>
    obtain ⟨superpage, ready, hpop⟩ := BoundedQueue.exists_pop hempty
    rw [hpop, BoundedQueue.toList_of_pop hpop]
    exact ⟨rfl, h.links, rfl, h.linkCapacity,
      (BoundedQueue.capacity_of_pop hpop).trans h.readyCapacity, h.slots, h.card⟩

theorem peek (h : channel.Wraps ideal) : ideal.peek.Describes Channel.peek channel := by
  unfold Outcome.Describes Channel.peek IdealChannel.peek Pipeline.peek
  rw [ensures_bind, ensures_get, BoundedQueue.front?_eq_head?, h.ready]
  cases ideal.ready with
  | nil => exact ⟨⟨_, rfl, rfl⟩, h⟩
  | cons superpage ready => exact ⟨rfl, h⟩

theorem clear (h : channel.Wraps ideal) :
    Channel.Wraps { channel with pipeline := channel.pipeline.clear } ideal.clear where
  links := by
    unfold Pipeline.clear IdealChannel.clear
    rw [List.forall₂_map_left_iff, List.forall₂_map_right_iff]
    apply h.links.imp
    intro link idealLink hlink
    exact ⟨hlink.id, rfl, rfl, (BoundedQueue.capacity_clear _).trans hlink.capacity⟩
  ready := rfl
  linkCapacity := h.linkCapacity
  readyCapacity := (BoundedQueue.capacity_clear _).trans h.readyCapacity
  slots := h.transferCapacity
  card := h.card

theorem transfer (h : channel.Wraps ideal) (transfer : Transfer)
    (hfair : ∀ read ∈ (transfer.runIdeal endpoint ideal).reads, read.Fair) :
    (transfer.runIdeal endpoint ideal).Describes (transfer.run endpoint) channel := by
  cases transfer with
  | push superpage pages busAddress => exact h.push superpage pages busAddress
  | fill => exact h.fill hfair
  | drain => exact h.drain hfair
  | pop => exact h.pop
  | peek => exact h.peek
  | clear => exact ⟨rfl, h.clear⟩

theorem afterTransfers (h : channel.Wraps ideal) (transfers : List Transfer)
    (hfair : ∀ read ∈ ideal.reads endpoint transfers, read.Fair) :
    (endpoint.afterTransfers channel transfers).Wraps (ideal.afterTransfers endpoint transfers) := by
  induction transfers generalizing channel ideal with
  | nil => exact h
  | cons transfer transfers ih =>
    rw [IdealChannel.reads, List.forall_mem_append] at hfair
    exact ih (h.transfer transfer hfair.1).lastState hfair.2

end Channel.Wraps

/-- Empty queues hold nothing and have counted nothing. -/
lemma Channel.wraps_idle (channel : Channel κ) (ids : List LinkId)
    (linkCapacity readyCapacity : Nat) (counts : Stream' Nat) :
    Channel.Wraps { channel with pipeline := .idle ids linkCapacity readyCapacity }
      (.idle ids linkCapacity readyCapacity ⟨channel.card, counts⟩) where
  links := by
    unfold Pipeline.idle IdealChannel.idle
    rw [List.forall₂_map_left_iff, List.forall₂_map_right_iff, List.forall₂_same]
    intro id _
    exact ⟨rfl, rfl, rfl, BoundedQueue.capacity_empty _⟩
  ready := rfl
  linkCapacity := rfl
  readyCapacity := BoundedQueue.capacity_empty _
  slots := rfl
  card := rfl

/-- Every transfer changes the queues in one of the known ways. -/
theorem Transfer.update (endpoint : Endpoint κ) (transfer : Transfer) (channel : Channel κ) :
    Update channel.pipeline (lastState (transfer.run endpoint) channel).pipeline := by
  have hall : Ensures (transfer.run endpoint) channel
      (fun _ last => Update channel.pipeline last.pipeline)
      (fun _ last => Update channel.pipeline last.pipeline) := by
    cases transfer with
    | push superpage pages busAddress =>
      apply (endpoint.ensures_submit channel superpage pages busAddress).mono
      · rintro id last ⟨place, link, -, henqueued, -⟩
        exact .enqueue henqueued
      · rintro e last (rfl | ⟨link, -, fault, hlast, -⟩)
        · exact .keep _
        · rw [hlast]
          exact .keep _
    | fill =>
      apply (endpoint.collect_advances channel).mono
      · rintro moved last ⟨-, quotas, moves, hadvanced⟩
        exact .advance hadvanced
      · intro e last hlast
        rw [Channel.pipeline_of_standing hlast]
        exact .keep _
    | drain =>
      apply (endpoint.drain_advances channel).mono
      · rintro moved last ⟨-, quotas, moves, hadvanced⟩
        exact .advance hadvanced
      · rintro e last ⟨-, quotas, moves, hadvanced⟩
        exact .advance hadvanced
    | pop => exact channel.pop_updates
    | peek => exact channel.peek_updates
    | clear => exact .clear _
  exact hall.of_lastState

lemma Endpoint.clear_afterTransfers (endpoint : Endpoint κ) (channel : Channel κ)
    (transfers : List Transfer) :
    (endpoint.afterTransfers channel transfers).pipeline.clear = channel.pipeline.clear := by
  induction transfers generalizing channel with
  | nil => rfl
  | cons transfer transfers ih => exact (ih _).trans (transfer.update endpoint channel).clear_eq

lemma Pipeline.clear_idle (ids : List LinkId) (linkCapacity readyCapacity : Nat) :
    (Pipeline.idle ids linkCapacity readyCapacity).clear =
      .idle ids linkCapacity readyCapacity := by
  unfold clear transferCapacity idle
  simp [Link.clear, Link.idle, BoundedQueue.clear, Function.comp_def]

/-- Once its queues are cleared, a channel goes through every run as an ideal channel does,
provided that every read is fair. Results, queues and slots are the same, and so are errors and
counters, modulo 2^32. -/
theorem wrapped_counters_refine (endpoint : Endpoint κ) (channel : Channel κ)
    (ids : List LinkId) (linkCapacity readyCapacity : Nat) (history : List Transfer)
    (counts : Stream' Nat) (transfers : List Transfer) (transfer : Transfer) :
    let opened := { channel with pipeline := .idle ids linkCapacity readyCapacity }
    let cleared := endpoint.afterTransfers opened (history ++ [.clear])
    let ideal := IdealChannel.idle ids linkCapacity readyCapacity ⟨cleared.card, counts⟩
    (∀ read ∈ ideal.reads endpoint (transfers ++ [transfer]), read.Fair) →
      let before := endpoint.afterTransfers cleared transfers
      let outcome := transfer.runIdeal endpoint (ideal.afterTransfers endpoint transfers)
      answer (transfer.run endpoint) before = outcome.answer.mapError IdealError.wrap ∧
        (lastState (transfer.run endpoint) before).Wraps outcome.state := by
  intro opened cleared ideal hfair before outcome
  have hidle : cleared.pipeline = .idle ids linkCapacity readyCapacity := by
    have hcleared := endpoint.clear_afterTransfers opened history
    rw [Pipeline.clear_idle] at hcleared
    unfold cleared Endpoint.afterTransfers
    rw [List.foldl_append]
    exact hcleared
  have hcleared : cleared.Wraps ideal := by
    have hwraps := cleared.wraps_idle ids linkCapacity readyCapacity counts
    rwa [← hidle] at hwraps
  rw [IdealChannel.reads_append, List.forall_mem_append] at hfair
  have hbefore := hcleared.afterTransfers transfers hfair.1
  have hdescribes : outcome.Describes (transfer.run endpoint) before := by
    apply hbefore.transfer transfer
    simpa [IdealChannel.reads] using hfair.2
  exact ⟨hdescribes.answer_eq, hdescribes.lastState⟩

/-- The card counts 2^32 superpages after the one that was drained, which is a violation with or
without a wrap. The error names the wrapped count. -/
theorem wrapped_counters_refine_full_turn :
    let endpoint : Endpoint SimulatedCard :=
      ⟨{}, SimulatedCard.registers, LinearBuffer.toBuffer { size := 0 }⟩
    let channel : Channel SimulatedCard :=
      ⟨.running, .idle [⟨3⟩] 2 2, false, { completion := .manual }, {}⟩
    let counts : Stream' Nat := fun n => n * UInt32.size
    let history := [.push ⟨16, 8, 0, false, 3⟩ 1 0]
    let transfers := [.push ⟨0, 8, 0, false, 1⟩ 1 0, .drain, .push ⟨8, 8, 0, false, 2⟩ 1 0]
    let cleared := endpoint.afterTransfers channel (history ++ [.clear])
    let ideal := IdealChannel.idle [⟨3⟩] 2 2 ⟨cleared.card, counts⟩
    (∀ read ∈ ideal.reads endpoint (transfers ++ [.fill]), read.Fair) ∧
      (Transfer.fill.runIdeal endpoint (ideal.afterTransfers endpoint transfers)).answer =
        .error (.protocolViolation ⟨3⟩ UInt32.size 1 1) ∧
      answer (Transfer.fill.run endpoint) (endpoint.afterTransfers cleared transfers) =
        .error (.protocolViolation ⟨3⟩ 0 1 1) := by
  intro endpoint channel counts history transfers cleared ideal
  have hfair : ∀ read ∈ ideal.reads endpoint (transfers ++ [.fill]), read.Fair := by
    decide +kernel
  have hideal : (Transfer.fill.runIdeal endpoint (ideal.afterTransfers endpoint transfers)).answer =
      .error (.protocolViolation ⟨3⟩ UInt32.size 1 1) := by
    decide +kernel
  obtain ⟨hanswer, -⟩ := wrapped_counters_refine endpoint channel [⟨3⟩] 2 2 history counts
    transfers .fill hfair
  exact ⟨hfair, hideal, hanswer.trans (congrArg (Except.mapError IdealError.wrap) hideal)⟩

end DmaReadout
