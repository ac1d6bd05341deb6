import DmaReadout.Proofs.Conservation
import DmaReadout.Proofs.CounterReads
import DmaReadout.Proofs.Runs
import DmaReadout.Proofs.Shares
import DmaReadout.Proofs.WrappedCounters
import Mathlib.Tactic.IntervalCases

/-!
# A full ready queue holds superpages back

A fill that finds too little room in the ready queue stops, within a link or between two. What has
arrived and was not moved stays due, and is due in the same order: with the same counts, fills and
pops deliver what one fill would have delivered with room for everything.
-/

namespace DmaReadout

open Link (PassedAll Shed ShedAll allArrivals fronts shares)
open Pipeline (Advanced Popped)

variable {κ : Type}

namespace Link

/-- On no link has the card counted more than is outstanding. -/
def Consistent (links : List Link) (counts : List UInt32) : Prop :=
  List.Forall₂ (fun link count => (link.arrivals count).toNat ≤ link.pending) links counts

/-- Superpages that were taken off a link are not counted again. -/
lemma Shed.toNat_arrivals {link link' : Link} {count : Nat} (h : Shed link count link')
    {hardwareCount : UInt32} (hcount : count ≤ (link.arrivals hardwareCount).toNat) :
    (link'.arrivals hardwareCount).toNat = (link.arrivals hardwareCount).toNat - count := by
  rw [arrivals, h.counter]
  exact toNat_sub_of_follow hcount

/-- The superpages that have arrived on several links, going by what the card has counted. -/
def due (links : List Link) (counts : List UInt32) : List Superpage :=
  fronts (links.zip (allArrivals links counts))

lemma due_cons (link : Link) (links : List Link) (count : UInt32) (counts : List UInt32) :
    due (link :: links) (count :: counts) =
      link.queue.toList.take (link.arrivals count).toNat ++ due links counts := rfl

/-- What a link keeps of what had arrived there is what there was no room for. -/
lemma Passed.arrived {link link' : Link} {ready ready' : BoundedQueue Superpage}
    {hardwareCount : UInt32} (hle : (link.arrivals hardwareCount).toNat ≤ link.pending)
    (h : Passed link ready (link.share ready (link.arrivals hardwareCount).toNat) link' ready') :
    (link'.arrivals hardwareCount).toNat ≤ link'.pending ∧
      link'.queue.toList.take (link'.arrivals hardwareCount).toNat =
        (link.queue.toList.take (link.arrivals hardwareCount).toNat).drop
          (ready.capacity - ready.length) ∧
      ready'.capacity - ready'.length =
        ready.capacity - ready.length - (link.arrivals hardwareCount).toNat := by
  have hroom := h.room
  have hpending := h.shed.pending
  have harrivals := h.shed.toNat_arrivals (Nat.min_le_left _ _)
  have hlength := (length_front link (link.arrivals hardwareCount).toNat).trans
    (Nat.min_eq_left hle)
  have hshare : link.share ready (link.arrivals hardwareCount).toNat =
      min (link.arrivals hardwareCount).toNat (ready.capacity - ready.length) := by
    unfold share
    omega
  refine ⟨by omega, ?_, by omega⟩
  rw [harrivals, h.shed.queue, ← List.drop_take, List.drop_eq_drop_iff, hlength, hshare]
  omega

/-- What there was no room for is still due, with the same counts. -/
theorem PassedAll.due {links links' : List Link} {ready ready' : BoundedQueue Superpage}
    {counts : List UInt32} {moves : List (LinkId × Nat)}
    (h : PassedAll links ready (allArrivals links counts) links' ready' moves)
    (hconsistent : Consistent links counts) :
    Consistent links' counts ∧
      due links' counts = (due links counts).drop (ready.capacity - ready.length) := by
  induction hconsistent generalizing links' ready moves with
  | nil =>
    cases h
    exact ⟨.nil, List.drop_nil.symm⟩
  | @cons link count links counts hle _ ih =>
    cases h with
    | rest hstop => rcases hstop with hstop | hstop <;> cases hstop
    | next first others =>
      obtain ⟨hconsistent', hdue⟩ := ih others
      obtain ⟨hle', hfront, hroom⟩ := first.arrived hle
      have hlength := (length_front link (link.arrivals count).toNat).trans (Nat.min_eq_left hle)
      refine ⟨.cons hle' hconsistent', ?_⟩
      rw [due_cons, due_cons, hdue, hfront, hroom, List.drop_append, hlength]

/-- Consistent counts meet with no objection. -/
lemma Consistent.objection? {links : List Link} {counts : List UInt32}
    (h : Consistent links counts) :
    (links.zip (counts.map Except.ok)).findSome? Link.objection? = none := by
  induction h with
  | nil => rfl
  | cons hle _ ih =>
    rw [List.map_cons, List.zip_cons_cons, List.findSome?_cons, Link.objection?,
      if_neg (Nat.not_lt.2 hle)]
    exact ih

/-- A link that can give nothing is left as it is. -/
lemma moveToReady_of_share_eq_zero {link : Link} {ready : BoundedQueue Superpage} {quota : Nat}
    (h : link.share ready quota = 0) : link.moveToReady ready quota = .ok (link, ready, 0) := by
  cases quota with
  | zero => rfl
  | succ quota =>
    have hroom := ready.length_le_capacity
    have hstop : (link.queue.isEmpty || ready.isFull) = true := by
      unfold share pending at h
      simp only [BoundedQueue.isEmpty, BoundedQueue.isFull, Bool.or_eq_true, beq_iff_eq]
      omega
    rw [moveToReady, if_pos hstop]

lemma moveAllToReady_of_share_eq_zero {links : List Link} {ready : BoundedQueue Superpage}
    {quotas : List Nat} (h : ∀ entry ∈ links.zip quotas, entry.1.share ready entry.2 = 0) :
    moveAllToReady links ready quotas =
      .ok (links, ready, (links.zip quotas).map fun entry => (entry.1.id, 0)) := by
  induction links generalizing quotas with
  | nil => rfl
  | cons link links ih =>
    cases quotas with
    | nil => rfl
    | cons quota quotas =>
      rw [List.zip_cons_cons, List.forall_mem_cons] at h
      rw [moveAllToReady, moveToReady_of_share_eq_zero h.1]
      simp only [ih h.2]
      rfl

lemma totalMoved_of_zero {moves : List (LinkId × Nat)} (h : ∀ move ∈ moves, move.2 = 0) :
    totalMoved moves = 0 := by
  induction moves with
  | nil => rfl
  | cons move moves ih =>
    rw [List.forall_mem_cons] at h
    rw [totalMoved, h.1, ih h.2]

end Link

lemma Journal.countMoves_of_zero {moves : List (LinkId × Nat)} (h : ∀ move ∈ moves, move.2 = 0)
    (journal : Journal) : journal.countMoves moves = journal := by
  have htouched : moves.filter (fun move => move.2 > 0) = [] := by
    rw [List.filter_eq_nil_iff]
    intro move hmove
    rw [h move hmove]
    decide
  rw [countMoves, htouched]
  simp

namespace Pipeline

/-- The superpages that have arrived, as they are when the card has completed them. -/
def due (pipeline : Pipeline) (counts : List UInt32) : List Superpage :=
  (Link.due pipeline.links counts).map Superpage.markReady

/-- What is due counts as complete, and as written in full. -/
lemma ready_of_mem_due {pipeline : Pipeline} {counts : List UInt32} {superpage : Superpage}
    (h : superpage ∈ pipeline.due counts) :
    superpage.ready = true ∧ superpage.received = superpage.size := by
  obtain ⟨pushed, -, rfl⟩ := List.mem_map.1 h
  exact ⟨rfl, rfl⟩

/-- What each link gives in a fill that finds these counts. -/
def given (pipeline : Pipeline) (counts : List UInt32) : List (Link × Nat) :=
  shares pipeline.room (pipeline.links.zip (allArrivals pipeline.links counts))

/-- A fill that found these counts has moved so many superpages: all that were due, in their order,
as far as there was room. -/
structure Filled (pipeline : Pipeline) (counts : List UInt32) (moved : Nat)
    (pipeline' : Pipeline) : Prop where
  moved_eq : moved = min (pipeline.due counts).length pipeline.room
  ready : pipeline'.ready.toList =
    pipeline.ready.toList ++ (pipeline.due counts).take pipeline.room
  fronts : (fronts (pipeline.given counts)).map Superpage.markReady =
    (pipeline.due counts).take pipeline.room
  links : ShedAll (pipeline.given counts) pipeline'.links
  capacity : pipeline'.ready.capacity = pipeline.ready.capacity
  slots : pipeline'.slots = pipeline.slots + moved

variable {pipeline pipeline' : Pipeline} {counts : List UInt32} {moves : List (LinkId × Nat)}

lemma Advanced.filled
    (h : Advanced pipeline (allArrivals pipeline.links counts) pipeline' moves)
    (hconsistent : Link.Consistent pipeline.links counts) :
    Filled pipeline counts (Link.totalMoved moves) pipeline' := by
  have hserved := h.served
  have hgiven : (fronts (pipeline.given counts)).map Superpage.markReady =
      (pipeline.due counts).take pipeline.room := by
    rw [given, Link.fronts_shares, List.map_take]
    rfl
  have hlength : (allArrivals pipeline.links counts).length = pipeline'.links.length := by
    rw [Link.length_allArrivals hconsistent.length_eq.symm, h.length_links]
  have hlinks := hserved.links
  rw [hlength, List.take_length] at hlinks
  refine ⟨?_, ?_, hgiven, hlinks, h.passed.capacity, h.slots⟩
  · rw [h.totalMoved_eq, Link.totalCount_shares, due, List.length_map]
    rfl
  · rw [← hgiven]
    exact hserved.ready

/-- After a fill there is no room left, or nothing is due. -/
lemma Filled.exhausted {moved : Nat} (h : Filled pipeline counts moved pipeline')
    (hdue : pipeline'.due counts = (pipeline.due counts).drop pipeline.room) :
    pipeline'.room = 0 ∨ pipeline'.due counts = [] := by
  by_cases hall : (pipeline.due counts).length ≤ pipeline.room
  · exact .inr (hdue.trans (List.drop_eq_nil_of_le hall))
  · have hlength := congrArg List.length h.ready
    rw [List.length_append, List.length_take, BoundedQueue.length_toList,
      BoundedQueue.length_toList] at hlength
    have hcapacity := h.capacity
    unfold room at hlength hall ⊢
    left
    omega

/-- No link has anything to give if there is no room, or nothing is due. -/
lemma share_eq_zero (hidle : pipeline.room = 0 ∨ pipeline.due counts = []) {entry : Link × Nat}
    (hentry : entry ∈ pipeline.links.zip (allArrivals pipeline.links counts)) :
    entry.1.share pipeline.ready entry.2 = 0 := by
  unfold Link.share
  rcases hidle with hroom | hdue
  · unfold room at hroom
    omega
  · have hfronts := List.map_eq_nil_iff.1 hdue
    have hfront := Link.length_front entry.1 entry.2
    rw [List.flatMap_eq_nil_iff.1 hfronts entry hentry, List.length_nil] at hfront
    omega

lemma advance_of_idle (hidle : pipeline.room = 0 ∨ pipeline.due counts = []) :
    ∃ moves, pipeline.advance (allArrivals pipeline.links counts) = .ok (pipeline, moves) ∧
      ∀ move ∈ moves, move.2 = 0 := by
  let moves := (pipeline.links.zip (allArrivals pipeline.links counts)).map fun entry =>
    (entry.1.id, 0)
  have hzero : ∀ move ∈ moves, move.2 = 0 := by
    intro move hmove
    obtain ⟨entry, -, rfl⟩ := List.mem_map.1 hmove
    rfl
  refine ⟨moves, ?_, hzero⟩
  rw [advance, Link.moveAllToReady_of_share_eq_zero fun _ => share_eq_zero hidle]
  dsimp only
  rw [Link.totalMoved_of_zero hzero]
  rfl

end Pipeline

lemma Channel.advance_of_eq {channel : Channel κ} {quotas : List Nat} {pipeline' : Pipeline}
    {moves : List (LinkId × Nat)}
    (h : channel.pipeline.advance quotas = .ok (pipeline', moves)) :
    Channel.advance quotas channel = .ok (Link.totalMoved moves) { channel with
      pipeline := pipeline'
      journal := channel.journal.countMoves moves } := by
  unfold Channel.advance
  have hget : (get : ChannelM κ (Channel κ)) channel = .ok channel channel := rfl
  rw [bind_of_ok hget, h]
  rfl

namespace Endpoint

variable {endpoint : Endpoint κ} {channel : Channel κ} {counts : List UInt32}

/-- A poll of the channel now would hear these counts. -/
def Hears (endpoint : Endpoint κ) (counts : List UInt32) (channel : Channel κ) : Prop :=
  endpoint.registers.counterReplies (channel.pipeline.links.map Link.id) channel.card =
    counts.map Except.ok

instance : Decidable (endpoint.Hears counts channel) :=
  inferInstanceAs (Decidable (_ = _))

/-- A fill that finds consistent counts goes on to move what has arrived. -/
theorem collect_eq (hhears : endpoint.Hears counts channel)
    (hconsistent : Link.Consistent channel.pipeline.links counts) {pipeline' : Pipeline}
    {moves : List (LinkId × Nat)}
    (hadvance : channel.pipeline.advance (allArrivals channel.pipeline.links counts) =
      .ok (pipeline', moves)) :
    ∃ card, endpoint.collect channel = .ok (Link.totalMoved moves) { channel with
      pipeline := pipeline'
      card
      journal := channel.journal.countMoves moves } := by
  have hpolled := ensures_pollArrivals endpoint channel.pipeline.links channel
  unfold Hears at hhears
  cases hpoll : endpoint.pollArrivals channel.pipeline.links channel with
  | error e last =>
    obtain ⟨hobjection, -⟩ := hpolled.of_error hpoll
    rw [polled, hhears, hconsistent.objection?] at hobjection
    cases hobjection
  | ok arrivals last =>
    obtain ⟨-, rfl, heard, hheard, rfl⟩ := hpolled.of_ok hpoll
    have hcounts : counts = heard :=
      List.map_injective_iff.2 (fun _ _ => Except.ok.inj) (hhears.symm.trans hheard)
    rw [← hcounts] at hpoll
    rw [collect_run, bind_of_ok hpoll]
    exact ⟨_, Channel.advance_of_eq hadvance⟩

/-- A fill that finds consistent counts succeeds, and leaves due what it had no room for. -/
theorem collect_fills (hhears : endpoint.Hears counts channel)
    (hconsistent : Link.Consistent channel.pipeline.links counts) :
    ∃ moved last, endpoint.collect channel = .ok moved last ∧
      Pipeline.Filled channel.pipeline counts moved last.pipeline ∧
      Link.Consistent last.pipeline.links counts ∧
      last.pipeline.due counts =
        (channel.pipeline.due counts).drop channel.pipeline.room := by
  obtain ⟨pipeline', moves, hadvance, hadvanced⟩ := Pipeline.exists_advanced channel.pipeline
    (allArrivals channel.pipeline.links counts)
  obtain ⟨card, hcollect⟩ := collect_eq hhears hconsistent hadvance
  obtain ⟨hconsistent', hdue⟩ := hadvanced.passed.due hconsistent
  refine ⟨_, _, hcollect, hadvanced.filled hconsistent, hconsistent', ?_⟩
  rw [Pipeline.due, Pipeline.due, hdue, List.map_drop]
  rfl

/-- A fill does nothing if there is no room, or nothing is due. -/
theorem collect_idle (hhears : endpoint.Hears counts channel)
    (hconsistent : Link.Consistent channel.pipeline.links counts)
    (hidle : channel.pipeline.room = 0 ∨ channel.pipeline.due counts = []) :
    ∃ card, endpoint.collect channel = .ok 0 { channel with card } := by
  obtain ⟨moves, hadvance, hzero⟩ := Pipeline.advance_of_idle hidle
  obtain ⟨card, hcollect⟩ := collect_eq hhears hconsistent hadvance
  rw [Journal.countMoves_of_zero hzero, Link.totalMoved_of_zero hzero] at hcollect
  exact ⟨card, hcollect⟩

end Endpoint

namespace Tracked

/-- What the consumer has taken, and what is ready to be taken. -/
def delivered (tracked : Tracked κ) : List Superpage :=
  tracked.history.popped ++ tracked.channel.pipeline.ready.toList

/-- What was delivered or due has been delivered or is due, in the same order. -/
structure Delivers (counts : List UInt32) (tracked tracked' : Tracked κ) : Prop where
  consistent : Link.Consistent tracked'.channel.pipeline.links counts
  account : tracked'.delivered ++ tracked'.channel.pipeline.due counts =
    tracked.delivered ++ tracked.channel.pipeline.due counts
  left : ∃ gone, tracked'.channel.pipeline.due counts =
    (tracked.channel.pipeline.due counts).drop gone

variable {endpoint : Endpoint κ} {tracked tracked' tracked'' : Tracked κ} {counts : List UInt32}

lemma Delivers.refl (h : Link.Consistent tracked.channel.pipeline.links counts) :
    Delivers counts tracked tracked :=
  ⟨h, rfl, 0, rfl⟩

lemma Delivers.trans (h : Delivers counts tracked tracked')
    (h' : Delivers counts tracked' tracked'') : Delivers counts tracked tracked'' := by
  obtain ⟨gone, hgone⟩ := h.left
  obtain ⟨gone', hgone'⟩ := h'.left
  refine ⟨h'.consistent, h'.account.trans h.account, gone + gone', ?_⟩
  rw [hgone', hgone, List.drop_drop]

/-- A first part of what was due has been delivered. -/
lemma Delivers.exists_prefix (h : Delivers counts tracked tracked') :
    ∃ part, part <+: tracked.channel.pipeline.due counts ∧
      tracked'.delivered = tracked.delivered ++ part := by
  obtain ⟨gone, hgone⟩ := h.left
  refine ⟨(tracked.channel.pipeline.due counts).take gone, List.take_prefix _ _, ?_⟩
  have haccount := h.account
  rw [← List.take_append_drop gone (tracked.channel.pipeline.due counts), ← hgone,
    ← List.append_assoc] at haccount
  exact List.append_cancel_right haccount

/-- Once nothing is due, nothing will be. -/
lemma Delivers.due_eq_nil (h : Delivers counts tracked tracked')
    (hdue : tracked.channel.pipeline.due counts = []) :
    tracked'.channel.pipeline.due counts = [] := by
  obtain ⟨gone, hgone⟩ := h.left
  rw [hgone, hdue, List.drop_nil]

lemma fill_delivers (hhears : endpoint.Hears counts tracked.channel)
    (hconsistent : Link.Consistent tracked.channel.pipeline.links counts) :
    let filled := tracked.perform endpoint .fill
    Delivers counts tracked filled ∧
      (filled.channel.pipeline.room = 0 ∨ filled.channel.pipeline.due counts = []) := by
  obtain ⟨moved, last, hcollect, hfilled, hconsistent', hdue⟩ :=
    Endpoint.collect_fills hhears hconsistent
  have hlast : tracked.perform endpoint .fill = tracked.proceed last := by
    rw [perform, lastState, hcollect]
  intro filled
  rw [show filled = tracked.proceed last from hlast]
  refine ⟨⟨hconsistent', ?_, _, hdue⟩, hfilled.exhausted hdue⟩
  change tracked.history.popped ++ last.pipeline.ready.toList ++ last.pipeline.due counts = _
  rw [hfilled.ready, hdue, delivered, List.append_assoc, List.append_assoc, List.append_assoc,
    List.take_append_drop]

lemma pop_delivers (endpoint : Endpoint κ)
    (hconsistent : Link.Consistent tracked.channel.pipeline.links counts) :
    Delivers counts tracked (tracked.perform endpoint .pop) := by
  have hpop := Channel.ensures_pop tracked.channel
  cases hrun : Channel.pop tracked.channel with
  | ok superpage last =>
    obtain ⟨hpopped, -⟩ := hpop.of_ok hrun
    simp only [perform, hrun]
    refine ⟨?_, ?_, 0, ?_⟩
    · rw [hpopped.links]
      exact hconsistent
    · unfold delivered Pipeline.due
      rw [hpopped.links, hpopped.taken, List.append_assoc, List.append_assoc, List.append_assoc]
      rfl
    · rw [Pipeline.due, hpopped.links]
      rfl
  | error e last =>
    have hsame := hpop.of_error hrun
    simp only [perform, hrun]
    rw [hsame]
    exact .refl hconsistent

/-- Nothing but fills and pops, where every fill finds these counts. -/
structure FillsAndPops (endpoint : Endpoint κ) (counts : List UInt32) (tracked : Tracked κ)
    (transfers : List Transfer) : Prop where
  kinds : ∀ transfer ∈ transfers, transfer = .fill ∨ transfer = .pop
  hears : ∀ before after, transfers = before ++ .fill :: after →
    endpoint.Hears counts (tracked.run endpoint before).channel

namespace FillsAndPops

variable {before after : List Transfer}

lemma left (h : FillsAndPops endpoint counts tracked (before ++ after)) :
    FillsAndPops endpoint counts tracked before where
  kinds transfer htransfer := h.kinds transfer (List.mem_append_left _ htransfer)
  hears first rest hbefore := by
    apply h.hears first (rest ++ after)
    rw [hbefore, List.append_assoc, List.cons_append]

lemma right (h : FillsAndPops endpoint counts tracked (before ++ after)) :
    FillsAndPops endpoint counts (tracked.run endpoint before) after where
  kinds transfer htransfer := h.kinds transfer (List.mem_append_right _ htransfer)
  hears first rest hafter := by
    rw [← run_append]
    apply h.hears (before ++ first) rest
    rw [hafter, List.append_assoc]

theorem delivers (h : FillsAndPops endpoint counts tracked after)
    (hconsistent : Link.Consistent tracked.channel.pipeline.links counts) :
    Delivers counts tracked (tracked.run endpoint after) := by
  induction after generalizing tracked with
  | nil => exact .refl hconsistent
  | cons transfer transfers ih =>
    have hfirst : Delivers counts tracked (tracked.perform endpoint transfer) := by
      rcases h.kinds transfer List.mem_cons_self with rfl | rfl
      · exact (fill_delivers (h.hears [] transfers rfl) hconsistent).1
      · exact pop_delivers endpoint hconsistent
    have hsplit : FillsAndPops endpoint counts tracked ([transfer] ++ transfers) := h
    have hrest : FillsAndPops endpoint counts (tracked.perform endpoint transfer) transfers :=
      hsplit.right
    exact hfirst.trans (ih hrest hfirst.consistent)

/-- Where a fill stands in the run, and how it leaves the queues. -/
lemma fill (h : FillsAndPops endpoint counts tracked (before ++ .fill :: after))
    (hconsistent : Link.Consistent tracked.channel.pipeline.links counts) :
    let middle := tracked.run endpoint before
    let filled := tracked.run endpoint (before ++ [.fill])
    endpoint.Hears counts middle.channel ∧
      Link.Consistent middle.channel.pipeline.links counts ∧
      Delivers counts tracked filled ∧
      (filled.channel.pipeline.room = 0 ∨ filled.channel.pipeline.due counts = []) ∧
      FillsAndPops endpoint counts filled after := by
  intro middle filled
  have hmiddle := h.left.delivers hconsistent
  have hhears := h.hears before after rfl
  have hfilled : filled = middle.perform endpoint .fill :=
    run_append endpoint tracked before [.fill]
  obtain ⟨hdelivers, hexhausted⟩ := fill_delivers hhears hmiddle.consistent
  rw [hfilled]
  refine ⟨hhears, hmiddle.consistent, hmiddle.trans hdelivers, hexhausted, ?_⟩
  rw [← hfilled]
  apply right
  rw [List.append_assoc]
  exact h

end FillsAndPops

/-- What is due counts as complete, and as written in full. A fill that finds consistent counts
moves it, as far as there is room. However such fills and pops follow on one another, every fill
succeeds, and what was taken or is ready is at any time a first part of what was due at the start,
behind what was ready then. It is all of it from the end of any fill that has left room; and a fill
straight after another does nothing. -/
theorem fills_deliver (endpoint : Endpoint κ) (channel : Channel κ) (counts : List UInt32)
    (hconsistent : Link.Consistent channel.pipeline.links counts) :
    let ready := channel.pipeline.ready.toList
    let due := channel.pipeline.due counts
    let start : Tracked κ := ⟨channel, {}⟩
    (∀ superpage ∈ due, superpage.ready = true ∧ superpage.received = superpage.size) ∧
    (endpoint.Hears counts channel → ∃ moved last, endpoint.collect channel = .ok moved last ∧
      Pipeline.Filled channel.pipeline counts moved last.pipeline) ∧
    ∀ transfers, FillsAndPops endpoint counts start transfers →
      let last := start.run endpoint transfers
      (∃ part, part <+: due ∧ last.delivered = ready ++ part) ∧
      (∀ before after, transfers = before ++ .fill :: after →
        let filled := (start.run endpoint (before ++ [.fill])).channel
        failure? endpoint.collect (start.run endpoint before).channel = none ∧
          (filled.pipeline.ready.isFull = false → last.delivered = ready ++ due)) ∧
      ∀ before after, transfers = before ++ .fill :: .fill :: after →
        let filled := (start.run endpoint (before ++ [.fill])).channel
        ∃ card, endpoint.collect filled = .ok 0 { filled with card } := by
  intro ready due start
  refine ⟨fun _ => Pipeline.ready_of_mem_due, ?_, ?_⟩
  · intro hhears
    obtain ⟨moved, last, hcollect, hfilled, -⟩ := Endpoint.collect_fills hhears hconsistent
    exact ⟨moved, last, hcollect, hfilled⟩
  intro transfers hfills last
  have hlast : Delivers counts start last := hfills.delivers hconsistent
  refine ⟨hlast.exists_prefix, ?_, ?_⟩
  · rintro before after rfl filled
    obtain ⟨hhears, hmiddle, hfilled, hexhausted, hafter⟩ := hfills.fill hconsistent
    obtain ⟨moved, next, hcollect, -⟩ := Endpoint.collect_fills hhears hmiddle
    refine ⟨by rw [failure?, hcollect], ?_⟩
    intro hroom
    have hdue : filled.pipeline.due counts = [] := by
      rcases hexhausted with hfull | hdue
      · rw [Pipeline.room_eq_zero_iff.1 hfull] at hroom
        cases hroom
      · exact hdue
    have hrest : Delivers counts (start.run endpoint (before ++ [.fill])) last := by
      have hsplit : last = (start.run endpoint (before ++ [.fill])).run endpoint after := by
        rw [← run_append, List.append_assoc]
        rfl
      rw [hsplit]
      exact hafter.delivers hfilled.consistent
    have haccount := hlast.account
    rw [hrest.due_eq_nil hdue, List.append_nil] at haccount
    exact haccount
  · rintro before after rfl filled
    obtain ⟨-, -, hfilled, hexhausted, hafter⟩ := hfills.fill hconsistent
    exact Endpoint.collect_idle (hafter.hears [] after rfl) hfilled.consistent hexhausted

/-- Three superpages on two links, all of them complete, and a ready queue with room for two. -/
def threeComplete : Channel ScriptedCard :=
  let counted : SimulatedCard :=
    { completion := .manual, counters := ⟨[(⟨0⟩, ⟨0, 2⟩), (⟨1⟩, ⟨0, 1⟩)]⟩ }
  let start : Tracked ScriptedCard :=
    ⟨{ twoLinksChannel ([], counted) with pipeline := .idle [⟨0⟩, ⟨1⟩] 2 2 }, {}⟩
  (start.run twoLinks [.push ⟨0, 8, 0, false, 1⟩ 1 0, .push ⟨8, 8, 0, false, 2⟩ 1 0,
    .push ⟨16, 8, 0, false, 3⟩ 1 0]).channel

/-- The first fill leaves one superpage behind, and the second does nothing. The superpages of the
first link come before that of the second. -/
theorem fills_deliver_three :
    let start : Tracked ScriptedCard := ⟨threeComplete, {}⟩
    let transfers : List Transfer := [.fill, .fill, .pop, .fill, .pop, .fill]
    let last := start.run twoLinks transfers
    Link.Consistent threeComplete.pipeline.links [2, 1] ∧
      twoLinks.Hears [2, 1] threeComplete ∧
      FillsAndPops twoLinks [2, 1] start transfers ∧
      (∃ moved filled, twoLinks.collect threeComplete = .ok moved filled ∧
        Pipeline.Filled threeComplete.pipeline [2, 1] moved filled.pipeline) ∧
      last.history.popped.map Superpage.userData = [1, 3] ∧
      last.delivered = threeComplete.pipeline.ready.toList ++ threeComplete.pipeline.due [2, 1] ∧
      let filled := (start.run twoLinks [.fill]).channel
      ∃ card, twoLinks.collect filled = .ok 0 { filled with card } := by
  intro start transfers last
  have hconsistent : Link.Consistent threeComplete.pipeline.links [2, 1] := by
    refine .cons ?_ (.cons ?_ .nil) <;> decide +kernel
  have hhears : twoLinks.Hears [2, 1] threeComplete := by decide +kernel
  have hfills : FillsAndPops twoLinks [2, 1] start transfers := by
    refine ⟨by simp [transfers], ?_⟩
    intro before after htransfers
    have hbefore : before = transfers.take before.length := by rw [htransfers, List.take_left]
    have hlength : before.length < 6 := by
      have hsix : 6 = (before ++ .fill :: after).length := congrArg List.length htransfers
      rw [List.length_append, List.length_cons] at hsix
      omega
    rw [hbefore]
    generalize before.length = count at hlength
    interval_cases count <;> decide +kernel
  obtain ⟨-, hfirst, hrest⟩ := fills_deliver twoLinks threeComplete [2, 1] hconsistent
  obtain ⟨-, hfill, hagain⟩ := hrest transfers hfills
  refine ⟨hconsistent, hhears, hfills, hfirst hhears, by decide +kernel, ?_, ?_⟩
  · exact (hfill [.fill, .fill, .pop, .fill, .pop] [] rfl).2 (by decide +kernel)
  · exact hagain [] [.pop, .fill, .pop, .fill] rfl

end Tracked

end DmaReadout
