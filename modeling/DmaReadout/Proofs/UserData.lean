import DmaReadout.Proofs.AccessHistory
import DmaReadout.Proofs.BackendSessions
import DmaReadout.Proofs.CounterRefinement

/-!
# User data is never looked at

A producer may give each superpage a value of its own. If all these values are changed in the same
way, then a channel takes the same course, on any card, and the superpages come back with the
changed values. Two channels are compared that hold the same superpages up to their user data.
-/

namespace DmaReadout

open Link (PassedAll)
open Pipeline (Advanced)

variable {κ α β : Type}

def Superpage.relabel (f : UInt64 → UInt64) (superpage : Superpage) : Superpage :=
  { superpage with userData := f superpage.userData }

/-- The second queue holds the superpages of the first one, relabelled. -/
structure BoundedQueue.Relabels (f : UInt64 → UInt64) (queue queue' : BoundedQueue Superpage) :
    Prop where
  capacity : queue'.capacity = queue.capacity
  items : queue'.toList = queue.toList.map (Superpage.relabel f)

structure Link.Relabels (f : UInt64 → UInt64) (link link' : Link) : Prop where
  id : link'.id = link.id
  counter : link'.counter = link.counter
  queue : link.queue.Relabels f link'.queue

structure Pipeline.Relabels (f : UInt64 → UInt64) (pipeline pipeline' : Pipeline) : Prop where
  links : List.Forall₂ (Link.Relabels f) pipeline.links pipeline'.links
  ready : pipeline.ready.Relabels f pipeline'.ready
  linkCapacity : pipeline'.linkCapacity = pipeline.linkCapacity
  slots : pipeline'.slots = pipeline.slots

/-- The channels are the same, but for the user data of their superpages. -/
structure Channel.Relabels (f : UInt64 → UInt64) (channel channel' : Channel κ) : Prop where
  lifecycle : channel'.lifecycle = channel.lifecycle
  pipeline : channel.pipeline.Relabels f channel'.pipeline
  debugModeSet : channel'.debugModeSet = channel.debugModeSet
  card : channel'.card = channel.card
  journal : channel'.journal = channel.journal

variable {f : UInt64 → UInt64}

namespace BoundedQueue.Relabels

variable {queue queue' : BoundedQueue Superpage}

lemma length (h : queue.Relabels f queue') : queue'.length = queue.length := by
  have hlength := congrArg List.length h.items
  rwa [List.length_map, length_toList, length_toList] at hlength

lemma isFull (h : queue.Relabels f queue') : queue'.isFull = queue.isFull := by
  rw [BoundedQueue.isFull, BoundedQueue.isFull, h.length, h.capacity]

lemma isEmpty (h : queue.Relabels f queue') : queue'.isEmpty = queue.isEmpty := by
  rw [BoundedQueue.isEmpty, BoundedQueue.isEmpty, h.length]

lemma clear (h : queue.Relabels f queue') : queue.clear.Relabels f queue'.clear := by
  refine ⟨?_, rfl⟩
  rw [capacity_clear, capacity_clear, h.capacity]

lemma push (h : queue.Relabels f queue') (superpage : Superpage) :
    (queue.push superpage = .error (.full superpage) ∧
        queue'.push (superpage.relabel f) = .error (.full (superpage.relabel f))) ∨
      ∃ pushed pushed', queue.push superpage = .ok pushed ∧
        queue'.push (superpage.relabel f) = .ok pushed' ∧ pushed.Relabels f pushed' := by
  cases hfull : queue.isFull with
  | true => exact .inl ⟨push_eq_error hfull, push_eq_error (h.isFull.trans hfull)⟩
  | false =>
    obtain ⟨pushed, hpush⟩ := exists_push superpage hfull
    obtain ⟨pushed', hpush'⟩ := exists_push (superpage.relabel f) (h.isFull.trans hfull)
    refine .inr ⟨pushed, pushed', hpush, hpush', ?_, ?_⟩
    · rw [capacity_of_push hpush, capacity_of_push hpush', h.capacity]
    · rw [toList_of_push hpush, toList_of_push hpush', h.items, List.map_append]
      rfl

lemma pop (h : queue.Relabels f queue') :
    (queue.pop = .error .empty ∧ queue'.pop = .error .empty) ∨
      ∃ superpage popped popped', queue.pop = .ok (superpage, popped) ∧
        queue'.pop = .ok (superpage.relabel f, popped') ∧ popped.Relabels f popped' := by
  cases hempty : queue.isEmpty with
  | true => exact .inl ⟨pop_eq_error hempty, pop_eq_error (h.isEmpty.trans hempty)⟩
  | false =>
    obtain ⟨superpage, popped, hpop⟩ := exists_pop hempty
    obtain ⟨superpage', popped', hpop'⟩ := exists_pop (h.isEmpty.trans hempty)
    have hitems := h.items
    rw [toList_of_pop hpop, toList_of_pop hpop', List.map_cons, List.cons.injEq] at hitems
    refine .inr ⟨superpage, popped, popped', hpop, ?_, ?_, hitems.2⟩
    · rw [hpop', hitems.1]
    · rw [capacity_of_pop hpop, capacity_of_pop hpop', h.capacity]

end BoundedQueue.Relabels

namespace Link.Relabels

variable {link link' : Link}

lemma pending (h : link.Relabels f link') : link'.pending = link.pending :=
  h.queue.length

lemma clear (h : link.Relabels f link') : link.clear.Relabels f link'.clear :=
  ⟨h.id, rfl, h.queue.clear⟩

lemma share {ready ready' : BoundedQueue Superpage} (h : link.Relabels f link')
    (hready : ready.Relabels f ready') (quota : Nat) :
    link'.share ready' quota = link.share ready quota := by
  rw [Link.share, Link.share, h.pending, hready.capacity, hready.length]

lemma shed {count : Nat} {last last' : Link} (h : link.Relabels f link')
    (hshed : Shed link count last) (hshed' : Shed link' count last') :
    last.Relabels f last' := by
  refine ⟨?_, ?_, ?_, ?_⟩
  · rw [hshed.id, hshed'.id, h.id]
  · rw [hshed.counter, hshed'.counter, h.counter]
  · rw [hshed.capacity, hshed'.capacity, h.queue.capacity]
  · rw [hshed.queue, hshed'.queue, h.queue.items, List.map_drop]

end Link.Relabels

section Links

variable {links links' : List Link} {ready ready' : BoundedQueue Superpage}

lemma leastLoaded_relabels (h : List.Forall₂ (Link.Relabels f) links links') :
    (Link.leastLoaded links = none ∧ Link.leastLoaded links' = none) ∨
      ∃ place link link', Link.leastLoaded links = some (place, link) ∧
        Link.leastLoaded links' = some (place, link') ∧ link.Relabels f link' := by
  induction h with
  | nil => exact .inl ⟨rfl, rfl⟩
  | @cons first first' links links' hfirst _ ih =>
    rw [Link.leastLoaded, Link.leastLoaded]
    rcases ih with ⟨hnone, hnone'⟩ | ⟨place, best, best', hbest, hbest', hrelabels⟩
    · rw [hnone, hnone']
      exact .inr ⟨0, first, first', rfl, rfl, hfirst⟩
    · rw [hbest, hbest']
      dsimp only
      rw [hfirst.pending, hrelabels.pending]
      by_cases hle : first.pending ≤ best.pending
      · rw [if_pos hle, if_pos hle]
        exact .inr ⟨0, first, first', rfl, rfl, hfirst⟩
      · rw [if_neg hle, if_neg hle]
        exact .inr ⟨place + 1, best, best', rfl, rfl, hrelabels⟩

lemma passed_relabels {link link' last last' : Link} {count : Nat}
    {next next' : BoundedQueue Superpage} (h : link.Relabels f link')
    (hready : ready.Relabels f ready') (hpassed : Link.Passed link ready count last next)
    (hpassed' : Link.Passed link' ready' count last' next') :
    last.Relabels f last' ∧ next.Relabels f next' := by
  refine ⟨h.shed hpassed.shed hpassed'.shed, ?_, ?_⟩
  · rw [hpassed.capacity, hpassed'.capacity, hready.capacity]
  · rw [hpassed.given, hpassed'.given, hready.items, h.queue.items, ← List.map_take,
      List.map_append, List.map_map, List.map_map]
    rfl

/-- The same superpages move on, from the same links. -/
lemma passedAll_relabels {quotas : List Nat} {last last' : List Link}
    {next next' : BoundedQueue Superpage} {moves moves' : List (LinkId × Nat)}
    (hpassed : PassedAll links ready quotas last next moves)
    (hpassed' : PassedAll links' ready' quotas last' next' moves')
    (h : List.Forall₂ (Link.Relabels f) links links') (hready : ready.Relabels f ready') :
    List.Forall₂ (Link.Relabels f) last last' ∧ next.Relabels f next' ∧ moves' = moves := by
  induction hpassed generalizing links' ready' last' next' moves' with
  | rest hstop =>
    cases hpassed' with
    | rest => exact ⟨h, hready, rfl⟩
    | next =>
      rcases hstop with rfl | hstop
      · cases h
      · cases hstop
  | @next first _ _ _ ready _ _ quota _ _ hfirst hothers ih =>
    cases h with
    | @cons _ first' _ _ hlink hlinks =>
      cases hpassed' with
      | rest hstop => rcases hstop with hstop | hstop <;> cases hstop
      | next hfirst' hothers' =>
        rw [hlink.share hready] at hfirst'
        obtain ⟨hlast, hnext⟩ := passed_relabels hlink hready hfirst hfirst'
        obtain ⟨hlasts, hnexts, hmoves⟩ := ih hothers' hlinks hnext
        refine ⟨.cons hlast hlasts, hnexts, ?_⟩
        rw [hmoves, hlink.id, hlink.share hready]

end Links

namespace Pipeline.Relabels

variable {pipeline pipeline' : Pipeline}

lemma length_links (h : pipeline.Relabels f pipeline') :
    pipeline'.links.length = pipeline.links.length :=
  h.links.length_eq.symm

lemma transferCapacity (h : pipeline.Relabels f pipeline') :
    pipeline'.transferCapacity = pipeline.transferCapacity := by
  rw [Pipeline.transferCapacity, Pipeline.transferCapacity, h.linkCapacity, h.length_links]

/-- What can be counted on a link does not depend on user data. -/
lemma map_links {γ : Type} {view : Link → γ} (h : pipeline.Relabels f pipeline')
    (hview : ∀ link link', Link.Relabels f link link' → view link' = view link) :
    pipeline'.links.map view = pipeline.links.map view := by
  have hlinks := h.links
  generalize pipeline.links = links, pipeline'.links = links' at hlinks
  induction hlinks with
  | nil => rfl
  | cons hfirst _ ih => rw [List.map_cons, List.map_cons, hview _ _ hfirst, ih]

lemma checkCapacity (h : pipeline.Relabels f pipeline') :
    pipeline'.checkCapacity = pipeline.checkCapacity := by
  rw [Pipeline.checkCapacity, Pipeline.checkCapacity, h.slots]

lemma checkDrained (h : pipeline.Relabels f pipeline') :
    pipeline'.checkDrained = pipeline.checkDrained := by
  have hkeeps (link link' : Link) (hlink : link.Relabels f link') :
      (link.pending != 0 || pipeline.slots != pipeline.transferCapacity) =
        (link'.pending != 0 || pipeline'.slots != pipeline'.transferCapacity) := by
    rw [hlink.pending, h.slots, h.transferCapacity]
  unfold Pipeline.checkDrained
  dsimp only
  rcases forall₂_find? h.links hkeeps with ⟨hnone, hnone'⟩ | ⟨link, link', hsome, hsome', hlink⟩
  · rw [hnone, hnone']
  · rw [hsome, hsome']
    dsimp only
    rw [hlink.id, hlink.pending, h.slots, h.transferCapacity]

lemma clear (h : pipeline.Relabels f pipeline') : pipeline.clear.Relabels f pipeline'.clear where
  links := by
    unfold Pipeline.clear
    rw [List.forall₂_map_left_iff, List.forall₂_map_right_iff]
    exact h.links.imp fun _ _ hlink => hlink.clear
  ready := h.ready.clear
  linkCapacity := h.linkCapacity
  slots := h.transferCapacity

lemma nextLink (h : pipeline.Relabels f pipeline') :
    SameOutcome (fun chosen chosen' => chosen'.1 = chosen.1 ∧ chosen.2.Relabels f chosen'.2)
      pipeline.nextLink pipeline'.nextLink := by
  unfold Pipeline.nextLink
  rw [h.checkCapacity]
  cases pipeline.checkCapacity with
  | error e => exact .error e
  | ok =>
    dsimp only
    rcases leastLoaded_relabels h.links with
      ⟨hnone, hnone'⟩ | ⟨place, link, link', hsome, hsome', hlink⟩
    · rw [hnone, hnone']
      exact .error _
    · rw [hsome, hsome']
      dsimp only
      rw [hlink.queue.isFull, hlink.id, hlink.queue.capacity]
      split
      · exact .error _
      · exact .ok ⟨rfl, hlink⟩

lemma enqueue (h : pipeline.Relabels f pipeline') (place : Nat) {link link' : Link}
    (hlink : link.Relabels f link') (superpage : Superpage) :
    SameOutcome (Pipeline.Relabels f) (pipeline.enqueue place link superpage)
      (pipeline'.enqueue place link' (superpage.relabel f)) := by
  unfold Pipeline.enqueue
  rcases hlink.queue.push superpage with
    ⟨herror, herror'⟩ | ⟨pushed, pushed', hpush, hpush', hpushed⟩
  · rw [herror, herror', hlink.id, h.linkCapacity]
    exact .error _
  · rw [hpush, hpush']
    refine .ok ⟨?_, h.ready, h.linkCapacity, ?_⟩
    · exact forall₂_set h.links ⟨hlink.id, hlink.counter, hpushed⟩
    · dsimp only
      rw [h.slots]

lemma advance (h : pipeline.Relabels f pipeline') (quotas : List Nat) :
    SameOutcome (fun moved moved' => moved.1.Relabels f moved'.1 ∧ moved'.2 = moved.2)
      (pipeline.advance quotas) (pipeline'.advance quotas) := by
  obtain ⟨last, moves, hadvance, hadvanced⟩ := exists_advanced pipeline quotas
  obtain ⟨last', moves', hadvance', hadvanced'⟩ := exists_advanced pipeline' quotas
  obtain ⟨hlinks, hready, rfl⟩ :=
    passedAll_relabels hadvanced.passed hadvanced'.passed h.links h.ready
  rw [hadvance, hadvance']
  refine .ok ⟨⟨hlinks, hready, ?_, ?_⟩, rfl⟩
  · rw [hadvanced.linkCapacity, hadvanced'.linkCapacity, h.linkCapacity]
  · rw [hadvanced.slots, hadvanced'.slots, h.slots]

lemma peek (h : pipeline.Relabels f pipeline') :
    SameOutcome (fun superpage superpage' => superpage' = superpage.relabel f) pipeline.peek
      pipeline'.peek := by
  unfold Pipeline.peek
  rw [BoundedQueue.front?_eq_head?, BoundedQueue.front?_eq_head?, h.ready.items, List.head?_map]
  cases pipeline.ready.toList.head? with
  | none => exact .error _
  | some superpage => exact .ok rfl

lemma pop (h : pipeline.Relabels f pipeline') :
    SameOutcome (fun taken taken' => taken'.1 = taken.1.relabel f ∧ taken.2.Relabels f taken'.2)
      pipeline.pop pipeline'.pop := by
  unfold Pipeline.pop
  rcases h.ready.pop with ⟨hempty, hempty'⟩ | ⟨superpage, popped, popped', hpop, hpop', hpopped⟩
  · rw [hempty, hempty']
    exact .error _
  · rw [hpop, hpop']
    exact .ok ⟨rfl, h.links, hpopped, h.linkCapacity, h.slots⟩

end Pipeline.Relabels

lemma Pipeline.relabels_idle (ids : List LinkId) (linkCapacity readyCapacity : Nat) :
    (Pipeline.idle ids linkCapacity readyCapacity).Relabels f
      (.idle ids linkCapacity readyCapacity) where
  links := by
    unfold Pipeline.idle
    rw [List.forall₂_map_left_iff, List.forall₂_map_right_iff, List.forall₂_same]
    intro id _
    exact ⟨rfl, rfl, rfl, rfl⟩
  ready := ⟨rfl, rfl⟩
  linkCapacity := rfl
  slots := rfl

/-- The programs that follow may get different results, as long as these belong together. -/
lemma SameOutcome.lockstep_bind {γ : Type} {Q : α → β → Prop}
    {R : Channel κ → Channel κ → Prop} {outcome : Except ReadoutError α}
    {outcome' : Except ReadoutError β} {next : α → ChannelM κ γ} {next' : β → ChannelM κ γ}
    (h : SameOutcome Q outcome outcome')
    (hnext : ∀ a b, Q a b → Lockstep R (next a) (next' b)) :
    Lockstep R (ofExcept outcome >>= next) (ofExcept outcome' >>= next') := by
  cases h with
  | error e => exact Lockstep.throw e
  | ok related => exact hnext _ _ related

namespace Channel

variable {channel channel' : Channel κ}

open Channel (Relabels)

lemma setPipeline_relabels {pipeline pipeline' : Pipeline} (h : pipeline.Relabels f pipeline') :
    Lockstep (Relabels f : Channel κ → Channel κ → Prop) (setPipeline pipeline)
      (setPipeline pipeline') :=
  .modify fun _ _ hr => ⟨hr.lifecycle, h, hr.debugModeSet, hr.card, hr.journal⟩

lemma advance_relabels (quotas : List Nat) :
    Lockstep (Relabels f : Channel κ → Channel κ → Prop) (advance quotas) (advance quotas) := by
  apply Lockstep.get_bind
  intro channel channel' hr
  apply (hr.pipeline.advance quotas).lockstep_bind
  rintro ⟨pipeline, moves⟩ ⟨pipeline', _⟩ ⟨hpipeline, rfl⟩
  refine (Lockstep.modify ?_).bind fun _ => .pure _
  intro channel channel' hr
  refine ⟨hr.lifecycle, hpipeline, hr.debugModeSet, hr.card, ?_⟩
  exact congrArg (Journal.countMoves _) hr.journal

lemma Relabels.coupling : Coupling (Relabels f : Channel κ → Channel κ → Prop) where
  lifecycle h := h.lifecycle
  gauges h := h.pipeline.map_links fun _ _ hlink =>
    Link.gauge_eq_iff.2 ⟨hlink.id, hlink.counter, hlink.pending⟩
  checkCapacity h := h.pipeline.checkCapacity
  checkDrained h := h.pipeline.checkDrained
  noted record _ _ h := ⟨h.lifecycle, h.pipeline, h.debugModeSet, h.card,
    congrArg (Journal.note record) h.journal⟩
  counted metric _ _ h := ⟨h.lifecycle, h.pipeline, h.debugModeSet, h.card,
    congrArg (Journal.count metric) h.journal⟩
  settled _ _ _ h := ⟨rfl, h.pipeline, h.debugModeSet, h.card, h.journal⟩
  switchedOn h := ⟨h.lifecycle, h.pipeline, rfl, h.card, h.journal⟩
  cleared h := ⟨h.lifecycle, h.pipeline.clear, h.debugModeSet, h.card, h.journal⟩
  advance := advance_relabels

lemma peek_relabels : Lockstep (Relabels f : Channel κ → Channel κ → Prop)
    (peek >>= fun superpage => pure (superpage.relabel f)) peek := by
  unfold peek
  rw [bind_assoc]
  apply Lockstep.get_bind
  intro channel channel' hr
  rw [← bind_pure (ofExcept channel'.pipeline.peek)]
  apply hr.pipeline.peek.lockstep_bind
  rintro superpage _ rfl
  exact .pure _

lemma pop_relabels : Lockstep (Relabels f : Channel κ → Channel κ → Prop)
    (pop >>= fun superpage => pure (superpage.relabel f)) pop := by
  unfold pop
  rw [bind_assoc]
  apply Lockstep.get_bind
  intro channel channel' hr
  rw [bind_assoc]
  apply hr.pipeline.pop.lockstep_bind
  rintro ⟨superpage, pipeline⟩ ⟨_, pipeline'⟩ ⟨rfl, hpipeline⟩
  exact (setPipeline_relabels hpipeline).bind fun _ => .pure _

end Channel

namespace Endpoint

open Channel (Relabels)

lemma perform_relabels (endpoint : Endpoint κ) (access : Access) :
    Lockstep (Relabels f) (endpoint.perform access) (endpoint.perform access) := by
  intro channel channel' hr
  rw [ensures_perform]
  intro reply card hperform
  rw [← hr.card] at hperform
  refine ⟨{ channel' with card }, ?_, hr.lifecycle, hr.pipeline, hr.debugModeSet, rfl, hr.journal⟩
  simp only [perform, hperform]

/-- Channels on the same card that differ in user data only. -/
lemma coupled_relabels (endpoint : Endpoint κ) :
    endpoint.Coupled (fun _ => True) (Relabels f) endpoint.registers where
  toCoupling := Relabels.coupling
  perform access _ _ := endpoint.perform_relabels access
  resetWithLink level _ _ _ := by
    have hwrite (command : Command) :
        Lockstep (Relabels f) (endpoint.write command) (endpoint.write command) :=
      (endpoint.perform_relabels (.write command)).access
    exact (hwrite _).bind fun _ => hwrite _

lemma submit_relabels (endpoint : Endpoint κ) (superpage : Superpage) (pages : UInt32)
    (busAddress : UInt64) : Lockstep (Relabels f) (endpoint.submit superpage pages busAddress)
      (endpoint.submit (superpage.relabel f) pages busAddress) := by
  apply Lockstep.get_bind
  intro channel channel' hr
  apply hr.pipeline.nextLink.lockstep_bind
  rintro ⟨place, link⟩ ⟨_, link'⟩ ⟨rfl, hlink⟩
  dsimp only
  rw [hlink.id]
  apply (endpoint.coupled_relabels.write rfl).bind
  intro _
  apply Lockstep.get_bind
  intro channel channel' hr
  apply (hr.pipeline.enqueue _ hlink superpage).lockstep_bind
  intro pipeline pipeline' hpipeline
  apply (Channel.setPipeline_relabels hpipeline).bind
  intro _
  exact (endpoint.coupled_relabels.count _).bind fun _ => .pure _

end Endpoint

def Operation.relabel (f : UInt64 → UInt64) : Operation → Operation
  | push superpage => push (superpage.relabel f)
  | operation => operation

/-- The answer with the user data of a superpage that was pushed or has come back relabelled. -/
def Answer.relabel (f : UInt64 → UInt64) : Answer → Answer
  | ⟨.push superpage, result⟩ => ⟨.push (superpage.relabel f), result⟩
  | ⟨.peek, result⟩ => ⟨.peek, result.map (Superpage.relabel f)⟩
  | ⟨.pop, result⟩ => ⟨.pop, result.map (Superpage.relabel f)⟩
  | answer => answer

lemma answer_bind_pure (program : ChannelM κ α) (g : α → β) (channel : Channel κ) :
    answer (program >>= fun a => pure (g a)) channel = (answer program channel).map g := by
  unfold answer
  cases hprogram : program channel with
  | ok a last =>
    rw [bind_of_ok hprogram]
    rfl
  | error e last =>
    rw [bind_of_error hprogram]
    rfl

lemma lastState_bind_pure (program : ChannelM κ α) (g : α → β) (channel : Channel κ) :
    lastState (program >>= fun a => pure (g a)) channel = lastState program channel := by
  unfold lastState
  cases hprogram : program channel with
  | ok a last =>
    rw [bind_of_ok hprogram]
    rfl
  | error e last => rw [bind_of_error hprogram]

/-- What an operation has given back. -/
def Operation.answered (operation : Operation) (endpoint : Endpoint κ) (channel : Channel κ) :
    Answer :=
  ⟨operation, answer (operation.run endpoint) channel⟩

/-- An operation does the same to channels that differ in user data only. -/
theorem Operation.run_relabels (operation : Operation) (endpoint : Endpoint κ)
    {channel channel' : Channel κ} (h : channel.Relabels f channel') :
    (operation.relabel f).answered endpoint channel' =
        (operation.answered endpoint channel).relabel f ∧
      (lastState (operation.run endpoint) channel).Relabels f
        (lastState ((operation.relabel f).run endpoint) channel') := by
  have hcoupled := endpoint.coupled_relabels (f := f)
  cases operation with
  | start =>
    have hrun := hcoupled.start trivial
    exact ⟨congrArg (Answer.mk start) (hrun.answer_eq h), hrun.lastState h⟩
  | stop =>
    exact ⟨congrArg (Answer.mk stop) (hcoupled.stop.answer_eq h), hcoupled.stop.lastState h⟩
  | reset level =>
    have hrun : Lockstep (Channel.Relabels f) (endpoint.reset level) (endpoint.reset level) :=
      hcoupled.reset trivial
    exact ⟨congrArg (Answer.mk (reset level)) (hrun.answer_eq h), hrun.lastState h⟩
  | push superpage =>
    have hrun : Lockstep (Channel.Relabels f) (endpoint.push superpage)
        (endpoint.push (superpage.relabel f)) :=
      hcoupled.push rfl (endpoint.submit_relabels superpage)
    exact ⟨congrArg (Answer.mk (push (superpage.relabel f))) (hrun.answer_eq h), hrun.lastState h⟩
  | fill =>
    exact ⟨congrArg (Answer.mk fill) (hcoupled.fill.answer_eq h), hcoupled.fill.lastState h⟩
  | peek =>
    have hanswer := Channel.peek_relabels.answer_eq h
    have hlast := Channel.peek_relabels.lastState h
    rw [answer_bind_pure] at hanswer
    rw [lastState_bind_pure] at hlast
    exact ⟨congrArg (Answer.mk peek) hanswer, hlast⟩
  | pop =>
    have hanswer := Channel.pop_relabels.answer_eq h
    have hlast := Channel.pop_relabels.lastState h
    rw [answer_bind_pure] at hanswer
    rw [lastState_bind_pure] at hlast
    exact ⟨congrArg (Answer.mk pop) hanswer, hlast⟩
  | droppedPackets =>
    have hrun : Lockstep (Channel.Relabels f) endpoint.droppedPackets endpoint.droppedPackets :=
      hcoupled.access (by nofun) rfl
    exact ⟨congrArg (Answer.mk droppedPackets) (hrun.answer_eq h), hrun.lastState h⟩
  | injectError =>
    have hrun := hcoupled.injectError
    exact ⟨congrArg (Answer.mk injectError) (hrun.answer_eq h), hrun.lastState h⟩

/-- What is seen of a call. -/
structure Report where
  answer : Answer
  accesses : AccessHistory
  lifecycle : Lifecycle
  slots : Nat
  ready : Nat
  /-- The number of superpages outstanding on each link. -/
  pending : List Nat
  journal : Journal

def Report.relabel (f : UInt64 → UInt64) (report : Report) : Report :=
  { report with answer := report.answer.relabel f }

def Call.relabel (f : UInt64 → UInt64) (call : Call) : Call :=
  { call with operation := call.operation.relabel f }

namespace Endpoint

def report (endpoint : Endpoint κ) (channel : Channel κ) (call : Call) : Report :=
  let last := endpoint.afterCall channel call
  { answer := call.operation.answered (endpoint.during call) channel
    accesses := call.operation.accesses (endpoint.during call) channel
    lifecycle := last.lifecycle
    slots := last.pipeline.slots
    ready := last.pipeline.ready.length
    pending := last.pipeline.links.map Link.pending
    journal := last.journal }

/-- What is seen of a run. -/
def reports (endpoint : Endpoint κ) : Channel κ → List Call → List Report
  | _, [] => []
  | channel, call :: calls =>
    endpoint.report channel call :: endpoint.reports (endpoint.afterCall channel call) calls

lemma accesses_relabels (endpoint : Endpoint κ) (operation : Operation)
    {channel channel' : Channel κ} (h : channel.Relabels f channel') :
    (operation.relabel f).accesses endpoint channel' = operation.accesses endpoint channel := by
  have hstart : (channel.withHistory []).Relabels f (channel'.withHistory []) :=
    ⟨h.lifecycle, h.pipeline, h.debugModeSet, congrArg (Prod.mk []) h.card, h.journal⟩
  exact congrArg Prod.fst (operation.run_relabels endpoint.recorded hstart).2.card

lemma report_relabels (endpoint : Endpoint κ) (call : Call) {channel channel' : Channel κ}
    (h : channel.Relabels f channel') :
    endpoint.report channel' (call.relabel f) = (endpoint.report channel call).relabel f ∧
      (endpoint.afterCall channel call).Relabels f
        (endpoint.afterCall channel' (call.relabel f)) := by
  obtain ⟨hanswer, hlast⟩ := call.operation.run_relabels (endpoint.during call) h
  refine ⟨?_, hlast⟩
  unfold report Report.relabel
  dsimp only
  rw [Report.mk.injEq]
  exact ⟨hanswer, accesses_relabels _ _ h, hlast.lifecycle, hlast.pipeline.slots,
    hlast.pipeline.ready.length, hlast.pipeline.map_links fun _ _ hlink => hlink.pending,
    hlast.journal⟩

theorem reports_relabels (endpoint : Endpoint κ) (calls : List Call) {channel channel' : Channel κ}
    (h : channel.Relabels f channel') :
    endpoint.reports channel' (calls.map (Call.relabel f)) =
      (endpoint.reports channel calls).map (Report.relabel f) := by
  induction calls generalizing channel channel' with
  | nil => rfl
  | cons call calls ih =>
    obtain ⟨hreport, hlast⟩ := endpoint.report_relabels call h
    rw [List.map_cons, reports, reports, List.map_cons, hreport, ih hlast]

/-- Whatever the card answers: if the user data of all superpages that are pushed is changed, then
every call of a run gives the same result or the same error, makes the same accesses, and leaves the
same state, the same numbers of superpages in all queues and the same journal. Only the superpages
that come back carry the changed user data. -/
theorem userData_opaque (endpoint : Endpoint κ) (card : κ) (f : UInt64 → UInt64)
    (calls : List Call) :
    (endpoint.openChannel card).map (fun channel =>
        endpoint.reports channel (calls.map (Call.relabel f))) =
      (endpoint.openChannel card).map fun channel =>
        (endpoint.reports channel calls).map (Report.relabel f) := by
  cases hopen : endpoint.openChannel card with
  | error e => rfl
  | ok channel =>
    obtain ⟨links, hopened⟩ := exists_opened hopen
    have hchannel : channel.Relabels f channel := by
      refine ⟨rfl, ?_, rfl, rfl, rfl⟩
      rw [hopened.pipeline]
      exact Pipeline.relabels_idle _ _ _
    exact congrArg Except.ok (endpoint.reports_relabels calls hchannel)

end Endpoint

end DmaReadout
