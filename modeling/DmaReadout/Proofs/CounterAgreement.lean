import DmaReadout.Proofs.SimulatedRuns
import DmaReadout.Proofs.WrappedCounters

/-!
# Driver and card count alike

While a channel is running, what its card was given on a link is what has been taken off that
link and what is still pending there, and no more has arrived than is pending. So a card that
completes only what it was given never violates the protocol.
-/

namespace DmaReadout

open Link (Shed)
open SimulatedCard (Completed)

variable {γ : Type}

/-- The counters of the card fit those of the link. -/
structure InStep (card : SimulatedCard) (link : Link) : Prop where
  pushed : card.pushed link.id = link.counter + UInt32.ofNat link.pending
  arrivals_le : card.arrivals link ≤ link.pending

namespace InStep

variable {card card' : SimulatedCard} {link link' : Link}

lemma blank (h : card.counters = {}) (link : Link) : InStep card link.clear := by
  constructor
  · unfold SimulatedCard.pushed
    rw [h]
    rfl
  · unfold SimulatedCard.arrivals Link.arrivals SimulatedCard.arrived
    rw [h]
    change ((0 : UInt32) - 0).toNat ≤ link.clear.pending
    rw [UInt32.sub_self]
    exact Nat.zero_le _

lemma completed (h : InStep card link) (hcompleted : Completed card card') :
    InStep card' link := by
  have hpushed := h.pushed
  have harrivals := h.arrivals_le
  obtain ⟨count, hcount, harrived⟩ := hcompleted.arrived link.id
  unfold SimulatedCard.arrivals Link.arrivals at harrivals
  constructor
  · rw [hcompleted.pushed, hpushed]
  · unfold SimulatedCard.arrivals Link.arrivals
    rw [harrived]
    unfold SimulatedCard.outstanding at hcount
    rw [hpushed] at hcount
    exact toNat_sub_le_of_advance harrivals hcount

lemma shed (h : InStep card link) {count : Nat} (hshed : Shed link count link')
    (hcount : count ≤ card.arrivals link) : InStep card link' := by
  have hpushed := h.pushed
  have harrivals := h.arrivals_le
  have hpending := hshed.pending
  unfold SimulatedCard.arrivals Link.arrivals at harrivals hcount
  constructor
  · rw [hshed.id, hpushed, hshed.counter, ← hpending, Nat.add_comm, UInt32.ofNat_add,
      UInt32.add_assoc]
  · unfold SimulatedCard.arrivals Link.arrivals
    rw [hshed.id, hshed.counter]
    rw [← hpending] at harrivals
    exact toNat_sub_le_of_follow harrivals hcount

lemma push (h : InStep card link) {superpage : Superpage} {queue : BoundedQueue Superpage}
    (hqueue : link.queue.push superpage = .ok queue) (pages : UInt32) (busAddress : UInt64) :
    InStep (card.after (.write (.pushSuperpage link.id pages busAddress)))
      { link with queue } := by
  have hpushed := h.pushed
  have harrivals := h.arrivals_le
  have hpending := Link.pending_of_push hqueue
  constructor
  · rw [hpending, SimulatedCard.pushed_after_push, if_pos rfl, hpushed, UInt32.ofNat_add,
      UInt32.add_assoc]
    rfl
  · unfold SimulatedCard.arrivals at harrivals ⊢
    rw [hpending, SimulatedCard.arrived_after_push]
    exact Nat.le_succ_of_le harrivals

lemma push_other (h : InStep card link) {id : LinkId} (hne : link.id ≠ id) (pages : UInt32)
    (busAddress : UInt64) :
    InStep (card.after (.write (.pushSuperpage id pages busAddress))) link := by
  constructor
  · rw [SimulatedCard.pushed_after_push, if_neg hne.symm]
    exact h.pushed
  · unfold SimulatedCard.arrivals
    rw [SimulatedCard.arrived_after_push]
    exact h.arrivals_le

end InStep

/-- While the channel is running, its card is in step with every link. -/
structure Agrees (channel : Channel (γ × SimulatedCard)) : Prop where
  ids : (channel.pipeline.links.map Link.id).Nodup
  inStep : channel.lifecycle = .running →
    ∀ link ∈ channel.pipeline.links, InStep channel.card.2 link

namespace Agrees

variable {endpoint : Endpoint (γ × SimulatedCard)} {channel : Channel (γ × SimulatedCard)}

lemma control (h : Agrees channel) {control : CardControl}
    (hhonest : (Event.control control).Honest) :
    Agrees (endpoint.afterEvent channel (.control control)) where
  ids := h.ids
  inStep hrunning link hlink := by
    have hcompleted := SimulatedCard.control_completed channel.card.2 hhonest
    exact (h.inStep hrunning link hlink).completed hcompleted

/-- Whatever a call does, driver and card are in step afterwards, or not running. -/
theorem effect {operation : Operation} {after : Channel (γ × SimulatedCard)}
    (h : Agrees channel) (heffect : Effect operation channel after)
    (hrunning : after.lifecycle = .running) :
    ∀ link ∈ after.pipeline.links, InStep after.card.2 link := by
  cases heffect with
  | looks hstanding hlooked =>
    have hlifecycle := Channel.lifecycle_of_standing hstanding
    intro link hlink
    rw [Channel.pipeline_of_standing hstanding] at hlink
    exact (h.inStep (hlifecycle.symm.trans hrunning) link hlink).completed hlooked.completed
  | idles _ hnot _ => exact absurd hrunning hnot
  | starts _ _ _ hpipeline hblank =>
    intro link hlink
    rw [hpipeline] at hlink
    obtain ⟨link, -, rfl⟩ := List.mem_map.1 hlink
    exact InStep.blank hblank link
  | pushes hbefore _ henqueued hcard =>
    intro link' hlink'
    rw [hcard]
    rcases henqueued.mem_links h.ids hlink' with ⟨queue, hqueue, rfl⟩ | ⟨hlink', hne⟩
    · have hlink := List.mem_of_getElem? henqueued.found
      exact (h.inStep hbefore _ hlink).push hqueue _ _
    · exact (h.inStep hbefore _ hlink').push_other hne _ _
  | polls hbefore _ hlooked hadvanced =>
    intro link' hlink'
    obtain ⟨link, hlink, count, hshed, hquota⟩ := hadvanced.passed.exists_shed link' hlink'
    have hinStep := (h.inStep hbefore link hlink).completed hlooked.completed
    exact hinStep.shed hshed (hquota _ (List.prefix_refl _))
  | stops _ hstopped =>
    rw [hstopped] at hrunning
    cases hrunning
  | pops hlifecycle hcard hpopped =>
    rw [hpopped.links, hcard]
    exact h.inStep (hlifecycle.symm.trans hrunning)

theorem event (h : Agrees channel) (hsimulated : endpoint.Simulated) {event : Event}
    (hhonest : event.Honest) : Agrees (endpoint.afterEvent channel event) := by
  cases event with
  | control control => exact h.control hhonest
  | call call =>
    constructor
    · rw [endpoint.afterEvent_map_id]
      exact h.ids
    · exact h.effect (call.operation.effect (hsimulated.during call) channel)

theorem events (h : Agrees channel) (hsimulated : endpoint.Simulated) {events : List Event}
    (hhonest : ∀ event ∈ events, event.Honest) : Agrees (endpoint.afterEvents channel events) := by
  induction events generalizing channel with
  | nil => exact h
  | cons event events ih =>
    rw [List.forall_mem_cons] at hhonest
    exact ih (h.event hsimulated hhonest.1) hhonest.2

/-- A poll of a card that is in step fails only if an access was refused. -/
theorem fill_fails (h : Agrees channel) (hsimulated : endpoint.Simulated) :
    Ensures endpoint.fill channel (fun _ _ => True) (fun e _ => ∃ fault, e = .hardware fault) := by
  unfold Endpoint.fill
  rw [ensures_bind, ensures_get]
  by_cases hrunning : channel.lifecycle = .running
  · rw [if_pos hrunning, ensures_discard]
    apply Endpoint.ensures_collect
    apply (hsimulated.pollArrivals_looks _ channel).mono
    · intro arrivals polled _ pipeline moves _
      trivial
    · rintro e polled ⟨-, hlooked, hcause | ⟨link, hlink, hexcess⟩⟩
      · exact hcause
      · have hinStep := (h.inStep hrunning link hlink).completed hlooked.completed
        have hle := hinStep.arrivals_le
        omega
  · rw [if_neg hrunning]
    trivial

end Agrees

/-- A channel on a simulated card that is never told to lie stays in step with it whenever it
runs, whatever the card counted before and whichever accesses are refused. So no poll finds a
violation of the protocol. -/
theorem counters_agree (endpoint : Endpoint (γ × SimulatedCard))
    (hsimulated : endpoint.Simulated) (card : γ × SimulatedCard)
    (channel : Channel (γ × SimulatedCard)) (hopen : endpoint.openChannel card = .ok channel)
    (events : List Event) (hhonest : ∀ event ∈ events, event.Honest) :
    let last := endpoint.afterEvents channel events
    (last.lifecycle = .running → ∀ link ∈ last.pipeline.links, InStep last.card.2 link) ∧
      ∀ buffer id count counter pending after,
        Operation.fill.run { endpoint with buffer } last ≠
          .error (.protocolViolation id count counter pending) after := by
  obtain ⟨links, hopened⟩ := exists_opened hopen
  have hstart : Agrees channel := by
    refine ⟨hopened.nodup, ?_⟩
    intro hrunning
    rw [hopened.lifecycle] at hrunning
    cases hrunning
  have hlast := hstart.events hsimulated hhonest
  refine ⟨hlast.inStep, ?_⟩
  intro buffer id count counter pending after hfill
  have hsame : Endpoint.Simulated { endpoint with buffer } := hsimulated
  obtain ⟨fault, hfault⟩ := (hlast.fill_fails hsame).of_error hfill
  cases hfault

/-- A card with counters left over, which the first attempt to arm it will not reach. -/
def staleCard : ScriptedCard :=
  ([⟨.setBufferReady, 0, 1, .because "arm"⟩],
    { completion := .manual, counters := ⟨[(⟨0⟩, ⟨7, 9⟩)]⟩ })

/-- The first start fails; in the session after the second, a poll fails. -/
def restartedRun : List Event :=
  let call operation := Event.call ⟨operation, twoLinks.buffer⟩
  [call .start, call .start, call (.push ⟨0, 8192, 0, false, 0⟩),
    call (.push ⟨8192, 8192, 0, false, 1⟩), call (.push ⟨16384, 8192, 0, false, 2⟩),
    .control (.complete ⟨0⟩ 5), call .fill, call (.push ⟨24576, 8192, 0, false, 3⟩),
    .control (.failNext "poll"), call .fill]

/-- A card that counted wrongly before is in step after a start that succeeds. -/
theorem counters_agree_restarted :
    twoLinks.Simulated ∧ twoLinks.openChannel staleCard = .ok (twoLinksChannel staleCard) ∧
      (∀ event ∈ restartedRun, event.Honest) ∧
      let last := twoLinks.afterEvents (twoLinksChannel staleCard) restartedRun
      last.lifecycle = .running ∧ (∀ link ∈ last.pipeline.links, InStep last.card.2 link) ∧
        last.pipeline.links.map Link.pending = [1, 1] := by
  have hsimulated : twoLinks.Simulated := ⟨_, rfl⟩
  have hopen := openChannel_twoLinks staleCard
  have hhonest : ∀ event ∈ restartedRun, event.Honest := by
    simp [restartedRun, Event.Honest]
  have hagree := counters_agree twoLinks hsimulated _ _ hopen _ hhonest
  have hrunning : (twoLinks.afterEvents (twoLinksChannel staleCard) restartedRun).lifecycle =
      .running := by decide +kernel
  exact ⟨hsimulated, hopen, hhonest, hrunning, hagree.1 hrunning, by decide +kernel⟩

end DmaReadout
