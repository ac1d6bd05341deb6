import DmaReadout.Proofs.Runs
import DmaReadout.Proofs.SimulatedAccesses

/-!
# Calls on a simulated card

All that a call can do to a channel on a simulated card: to its lifecycle, to its queues and
to the counters of the card, which have to be seen together.
-/

namespace DmaReadout

open Pipeline (Advanced Enqueued Popped)
open SimulatedCard (Looked)

variable {γ : Type}

/-- What has arrived on a link beyond what was taken off it, modulo 2^32. -/
def SimulatedCard.arrivals (card : SimulatedCard) (link : Link) : Nat :=
  (link.arrivals (card.arrived link.id)).toNat

/-- The links have lost at most what had arrived, and one superpage more each. -/
def Drained (before after : Channel (γ × SimulatedCard)) : Prop :=
  ∃ quotas moves,
    quotas <+: before.pipeline.links.map (fun link => after.card.2.arrivals link + 1) ∧
    Advanced before.pipeline quotas after.pipeline moves

/-- What an operation does to a channel on a simulated card. -/
inductive Effect (operation : Operation) (before after : Channel (γ × SimulatedCard)) : Prop
  /-- At most some counters were read. -/
  | looks (standing : after.standing = before.standing)
      (looked : Looked before.card.2 after.card.2)
  /-- The channel was not running, and still is not. Only a start may have touched its queues. -/
  | idles (notBefore : before.lifecycle ≠ .running) (notAfter : after.lifecycle ≠ .running)
      (kept : operation ≠ .start → after.pipeline = before.pipeline)
  | starts (isStart : operation = .start) (stopped : before.lifecycle = .stopped)
      (running : after.lifecycle = .running) (pipeline : after.pipeline = before.pipeline.clear)
      (blank : after.card.2.counters = {})
  | pushes {place : Nat} {link : Link} {superpage : Superpage} {pages : UInt32}
      {busAddress : UInt64} (running : before.lifecycle = .running)
      (stillRunning : after.lifecycle = .running)
      (enqueued : Enqueued before.pipeline place link superpage after.pipeline)
      (card : after.card.2 = before.card.2.after (.write (.pushSuperpage link.id pages busAddress)))
  | polls {moves : List (LinkId × Nat)} (running : before.lifecycle = .running)
      (stillRunning : after.lifecycle = .running) (looked : Looked before.card.2 after.card.2)
      (advanced : Advanced before.pipeline (before.pipeline.links.map after.card.2.arrivals)
        after.pipeline moves)
  | stops (running : before.lifecycle = .running) (stopped : after.lifecycle = .stopped)
      (looked : Looked before.card.2 after.card.2) (drained : Drained before after)
  | pops {superpage : Superpage} (lifecycle : after.lifecycle = before.lifecycle)
      (card : after.card = before.card)
      (popped : Popped before.pipeline superpage after.pipeline)

variable {operation : Operation}

lemma Effect.refl (channel : Channel (γ × SimulatedCard)) : Effect operation channel channel :=
  .looks rfl (Looked.refl _)

lemma Effect.of_tally {channel last : Channel (γ × SimulatedCard)}
    (h : last.tally = channel.tally) : Effect operation channel last :=
  .looks (Channel.standing_of_tally h) (Channel.looked_of_tally h)

/-- A channel that was not running runs after a start only. -/
lemma Effect.starts_of_running {before after : Channel (γ × SimulatedCard)}
    (h : Effect operation before after) (hbefore : before.lifecycle ≠ .running)
    (hafter : after.lifecycle = .running) :
    operation = .start ∧ before.lifecycle = .stopped ∧
      after.pipeline = before.pipeline.clear ∧ after.card.2.counters = {} := by
  cases h with
  | looks hstanding _ =>
    have hlifecycle := Channel.lifecycle_of_standing hstanding
    exact absurd (hlifecycle.symm.trans hafter) hbefore
  | idles _ hnot _ => exact absurd hafter hnot
  | starts hstart hstopped _ hpipeline hblank => exact ⟨hstart, hstopped, hpipeline, hblank⟩
  | pushes hrunning => exact absurd hrunning hbefore
  | polls hrunning => exact absurd hrunning hbefore
  | stops hrunning => exact absurd hrunning hbefore
  | pops hlifecycle => exact absurd (hlifecycle.symm.trans hafter) hbefore

namespace Endpoint.Simulated

variable {endpoint : Endpoint (γ × SimulatedCard)} {channel : Channel (γ × SimulatedCard)}

/-- A poll that succeeds has found out what arrived. One that fails was refused an access, or
has found more than there can be. -/
theorem pollArrivals_looks (h : endpoint.Simulated) (links : List Link)
    (channel : Channel (γ × SimulatedCard)) :
    Ensures (endpoint.pollArrivals links) channel
      (fun arrivals last => last.standing = channel.standing ∧
        Looked channel.card.2 last.card.2 ∧ arrivals = links.map last.card.2.arrivals)
      (fun e last => last.standing = channel.standing ∧ Looked channel.card.2 last.card.2 ∧
        ((∃ fault, e = .hardware fault) ∨
          ∃ link ∈ links, link.pending < last.card.2.arrivals link)) := by
  induction links generalizing channel with
  | nil => exact ⟨rfl, Looked.refl _, rfl⟩
  | cons link links ih =>
    rw [pollArrivals, ensures_bind]
    apply h.ensures_access
    · intro card hcard
      have hlooked : Looked channel.card.2 card.2 := by
        rw [hcard]
        exact Looked.after_superpageCount _ _
      dsimp only [SimulatedCard.reply]
      by_cases hexcess : (link.arrivals (card.2.arrived link.id)).toNat > link.pending
      · rw [if_pos hexcess, ensures_bind, Channel.ensures_note, ensures_bind,
          Channel.ensures_count, ensures_throw]
        exact ⟨rfl, hlooked, .inr ⟨link, List.mem_cons_self, hexcess⟩⟩
      · rw [if_neg hexcess, ensures_bind]
        apply (ih { channel with card }).mono
        · rintro arrivals last ⟨hstanding, hlast, rfl⟩
          have hread : last.card.2.arrivals link = card.2.arrivals link := by
            unfold SimulatedCard.arrivals
            rw [hcard] at hlast ⊢
            rw [SimulatedCard.arrived_of_looked hlast]
          rw [ensures_pure, List.map_cons, hread]
          exact ⟨hstanding, hlooked.trans hlast, rfl⟩
        · rintro e last ⟨hstanding, hlast, hcause | ⟨excess, hmem, hpending⟩⟩
          · exact ⟨hstanding, hlooked.trans hlast, .inl hcause⟩
          · exact ⟨hstanding, hlooked.trans hlast,
              .inr ⟨excess, List.mem_cons_of_mem _ hmem, hpending⟩⟩
    · intro fault card hlooked
      exact ⟨rfl, hlooked, .inl ⟨fault, rfl⟩⟩

/-- Reading for a drain fails on no count, and stops at the first access that fails. -/
theorem readArrivals_looks (h : endpoint.Simulated) (links : List Link)
    (channel : Channel (γ × SimulatedCard)) :
    Ensures (endpoint.readArrivals links) channel
      (fun answer last => last.standing = channel.standing ∧
        Looked channel.card.2 last.card.2 ∧ answer.1 <+: links.map last.card.2.arrivals)
      (fun _ _ => False) := by
  induction links generalizing channel with
  | nil => exact ⟨rfl, Looked.refl _, List.nil_prefix⟩
  | cons link links ih =>
    rw [readArrivals, ensures_bind, ensures_perform]
    intro reply card hperform
    rcases h.perform_cases hperform with ⟨fault, failNext, rfl, hcard⟩ | ⟨rfl, hcard⟩
    · refine ⟨rfl, ?_, List.nil_prefix⟩
      dsimp only
      rw [hcard]
      exact Looked.of_counters rfl rfl
    · have hlooked : Looked channel.card.2 card.2 := by
        rw [hcard]
        exact Looked.after_superpageCount _ _
      dsimp only [SimulatedCard.reply]
      have hrest (noted : Channel (γ × SimulatedCard)) (hcard' : noted.card = card)
          (hnoted : noted.standing = channel.standing) :
          Ensures (endpoint.readArrivals links) noted
            (fun answer last => last.standing = channel.standing ∧
              Looked channel.card.2 last.card.2 ∧
              card.2.arrivals link :: answer.1 <+: (link :: links).map last.card.2.arrivals)
            (fun _ _ => False) := by
        apply (ih noted).mono
        · rintro ⟨arrivals, fault?⟩ last ⟨hstanding, hlast, hprefix⟩
          rw [hcard'] at hlast
          have hread : last.card.2.arrivals link = card.2.arrivals link := by
            unfold SimulatedCard.arrivals
            rw [hcard] at hlast ⊢
            rw [SimulatedCard.arrived_of_looked hlast]
          rw [List.map_cons, hread]
          refine ⟨hstanding.trans hnoted, hlooked.trans hlast, ?_⟩
          exact (List.prefix_cons_inj _).2 hprefix
        · intro e last hfalse
          exact hfalse
      by_cases hexcess : (link.arrivals (card.2.arrived link.id)).toNat > link.pending
      · rw [if_pos hexcess, ensures_bind, Channel.ensures_note, ensures_bind]
        exact hrest _ rfl rfl
      · rw [if_neg hexcess, ensures_bind]
        exact hrest _ rfl rfl

lemma drain_looks (h : endpoint.Simulated) (channel : Channel (γ × SimulatedCard)) :
    Ensures endpoint.drain channel
      (fun _ last => Looked channel.card.2 last.card.2 ∧ Drained channel last)
      (fun _ last => Looked channel.card.2 last.card.2 ∧ Drained channel last) := by
  apply ensures_drain
  apply (h.readArrivals_looks channel.pipeline.links channel).mono
  · rintro answer read ⟨hstanding, hlooked, hprefix⟩ pipeline moves hadvanced
    rw [Channel.pipeline_of_standing hstanding] at hadvanced
    refine ⟨hlooked, _, moves, ?_, hadvanced⟩
    have hsucc := hprefix.map (· + 1)
    rw [List.map_map] at hsucc
    exact hsucc
  · intro e read hfalse
    exact hfalse.elim

lemma disarmAndDrain_looks (h : endpoint.Simulated) :
    Ensures endpoint.disarmAndDrain channel
      (fun _ last => Looked channel.card.2 last.card.2 ∧ Drained channel last)
      (fun _ last => Looked channel.card.2 last.card.2 ∧ Drained channel last) := by
  have hnone {last : Channel (γ × SimulatedCard)} (hlast : last.tally = channel.tally) :
      Looked channel.card.2 last.card.2 ∧ Drained channel last := by
    refine ⟨Channel.looked_of_tally hlast, [], [], List.nil_prefix, ?_⟩
    rw [Channel.pipeline_of_standing (Channel.standing_of_tally hlast)]
    exact Advanced.refl _
  unfold disarmAndDrain
  apply (h.keeps_access fun _ => ⟨rfl, rfl⟩).ensures_bind
  · intro _ disarmed hdisarmed
    apply (h.keeps_access fun _ => ⟨rfl, rfl⟩).ensures_bind
    · intro _ halted hhalted
      have hquiet : halted.tally = channel.tally := hhalted.trans hdisarmed
      have hpipeline := Channel.pipeline_of_standing (Channel.standing_of_tally hquiet)
      have hdrained {last : Channel (γ × SimulatedCard)}
          (hlast : Looked halted.card.2 last.card.2 ∧ Drained halted last) :
          Looked channel.card.2 last.card.2 ∧ Drained channel last := by
        obtain ⟨hlooked, hdrained⟩ := hlast
        unfold Drained at hdrained
        rw [hpipeline] at hdrained
        exact ⟨(Channel.looked_of_tally hquiet).trans hlooked, hdrained⟩
      rw [ensures_bind]
      apply (h.drain_looks halted).mono
      · intro _ last hlast
        exact hdrained hlast
      · intro e last hlast
        exact hdrained hlast
    · intro e last hlast
      exact hnone (hlast.trans hdisarmed)
  · intro e last hlast
    exact hnone hlast

theorem start_effect (h : endpoint.Simulated) :
    Ensures endpoint.start channel (fun _ last => Effect .start channel last)
      (fun _ last => Effect .start channel last) := by
  unfold start
  rw [ensures_bind, ensures_get]
  cases hlifecycle : channel.lifecycle with
  | stopped =>
    dsimp only
    rw [Channel.ensures_transition]
    apply ((configureAndArm_clears endpoint _).and h.configureAndArm_blank).mono
    · rintro _ last ⟨hpipeline, hblank⟩
      exact .starts rfl hlifecycle rfl hpipeline hblank
    · rintro e last -
      refine .idles ?_ ?_ (absurd rfl)
      · rw [hlifecycle]
        simp
      · simp
  | running => exact .of_tally rfl
  | starting => exact .refl channel
  | stopping => exact .refl channel
  | resetting => exact .refl channel

theorem stop_effect (h : endpoint.Simulated) :
    Ensures endpoint.stop channel (fun _ last => Effect .stop channel last)
      (fun _ last => Effect .stop channel last) := by
  unfold stop
  rw [ensures_bind, ensures_get]
  cases hlifecycle : channel.lifecycle with
  | running =>
    dsimp only
    rw [Channel.ensures_transition]
    apply h.disarmAndDrain_looks.mono
    · rintro _ last ⟨hlooked, hdrained⟩
      exact .stops hlifecycle rfl hlooked hdrained
    · rintro e last ⟨hlooked, hdrained⟩
      exact .stops hlifecycle rfl hlooked hdrained
  | stopped => exact .of_tally rfl
  | starting => exact .refl channel
  | stopping => exact .refl channel
  | resetting => exact .refl channel

theorem reset_effect (level : ResetLevel) :
    Ensures (endpoint.reset level) channel (fun _ last => Effect (.reset level) channel last)
      (fun _ last => Effect (.reset level) channel last) := by
  by_cases hstopped : channel.lifecycle = .stopped
  · have hidles {last : Channel (γ × SimulatedCard)} (hlast : last.standing = channel.standing) :
        Effect (.reset level) channel last := by
      have hlifecycle := Channel.lifecycle_of_standing hlast
      refine .idles ?_ ?_ fun _ => Channel.pipeline_of_standing hlast
      · rw [hstopped]
        simp
      · rw [hlifecycle, hstopped]
        simp
    exact (keeps_reset endpoint level channel).mono (fun _ _ => hidles) (fun _ _ => hidles)
  · unfold reset
    by_cases hlevel : level ≠ .nothing
    · rw [if_pos hlevel, ensures_bind, ensures_get, if_neg hstopped]
      exact .refl channel
    · rw [if_neg hlevel]
      exact .refl channel

theorem push_effect (h : endpoint.Simulated) (superpage : Superpage) :
    Ensures (endpoint.push superpage) channel (fun _ last => Effect (.push superpage) channel last)
      (fun _ last => Effect (.push superpage) channel last) := by
  apply (ensures_push endpoint superpage channel).mono
  · rintro _ last ⟨hbefore, hafter, pages, busAddress, place, link, -, henqueued, -, hperform⟩
    rcases h.perform_cases hperform with ⟨_, _, hreply, _⟩ | ⟨_, hcard⟩
    · cases hreply
    · exact .pushes hbefore hafter henqueued hcard
  · rintro e last (rfl | ⟨pages, busAddress, link, _, fault, hlast, hperform⟩)
    · exact .refl last
    · have hstanding : last.standing = channel.standing := by
        rw [hlast]
        rfl
      rcases h.perform_cases hperform with ⟨_, failNext, _, hcard⟩ | ⟨hreply, _⟩
      · apply Effect.looks hstanding
        rw [hcard]
        exact Looked.of_counters rfl rfl
      · cases hreply

theorem fill_effect (h : endpoint.Simulated) :
    Ensures endpoint.fill channel (fun _ last => Effect .fill channel last)
      (fun _ last => Effect .fill channel last) := by
  unfold fill
  rw [ensures_bind, ensures_get]
  by_cases hrunning : channel.lifecycle = .running
  · rw [if_pos hrunning, ensures_discard]
    apply ensures_collect
    apply (h.pollArrivals_looks _ channel).mono
    · rintro arrivals polled ⟨hstanding, hlooked, rfl⟩ pipeline moves hadvanced
      have hlifecycle := Channel.lifecycle_of_standing hstanding
      rw [Channel.pipeline_of_standing hstanding] at hadvanced
      exact .polls hrunning (hlifecycle.trans hrunning) hlooked hadvanced
    · rintro e polled ⟨hstanding, hlooked, -⟩
      exact .looks hstanding hlooked
  · rw [if_neg hrunning]
    exact .refl channel

end Endpoint.Simulated

/-- Every operation on a simulated card has one of the known effects. -/
theorem Operation.effect {endpoint : Endpoint (γ × SimulatedCard)} (h : endpoint.Simulated)
    (operation : Operation) (channel : Channel (γ × SimulatedCard)) :
    Effect operation channel (lastState (operation.run endpoint) channel) := by
  have hall : Ensures (operation.run endpoint) channel (fun _ last => Effect operation channel last)
      (fun _ last => Effect operation channel last) := by
    cases operation with
    | start => exact h.start_effect
    | stop => exact h.stop_effect
    | reset level => exact Endpoint.Simulated.reset_effect level
    | push superpage => exact h.push_effect superpage
    | fill => exact h.fill_effect
    | peek =>
      apply (Channel.ensures_peek channel).mono
      · rintro superpage last ⟨-, rfl⟩
        exact .refl last
      · rintro e last rfl
        exact .refl last
    | pop =>
      apply (Channel.ensures_pop channel).mono
      · rintro superpage last ⟨hpopped, hlast⟩
        apply Effect.pops _ _ hpopped
        · rw [hlast]
        · rw [hlast]
      · rintro e last rfl
        exact .refl last
    | droppedPackets =>
      apply (h.keeps_access (fun _ => ⟨rfl, rfl⟩) channel).mono
      · intro _ last hlast
        exact .of_tally hlast
      · intro e last hlast
        exact .of_tally hlast
    | injectError =>
      have hkeeps : Keeps Channel.tally endpoint.injectError := by
        unfold Endpoint.injectError
        apply Keeps.ite _ (Keeps.pure _)
        exact (h.keeps_access fun _ => ⟨rfl, rfl⟩).bind fun _ => Keeps.pure _
      apply (hkeeps channel).mono
      · intro _ last hlast
        exact .of_tally hlast
      · intro e last hlast
        exact .of_tally hlast
  exact hall.of_lastState

end DmaReadout
