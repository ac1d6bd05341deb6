import DmaReadout.Channel.Operation
import DmaReadout.Proofs.Accesses
import DmaReadout.Proofs.PipelineUpdates

/-!
# What transfers do to the queues

Pushing, polling, draining and popping, each with both of its outcomes. An error leaves the
queues alone, but for a drain: that has moved what it could before it complains.
-/

namespace DmaReadout

open Pipeline

variable {κ : Type}

namespace Channel

variable {channel : Channel κ}

lemma ensures_advance {quotas : List Nat} {ok : Nat → Channel κ → Prop}
    {failed : ReadoutError → Channel κ → Prop}
    (h : ∀ pipeline moves, Advanced channel.pipeline quotas pipeline moves →
      ok (Link.totalMoved moves)
        { channel with pipeline, journal := channel.journal.countMoves moves }) :
    Ensures (advance quotas) channel ok failed := by
  obtain ⟨pipeline, moves, hadvance, hadvanced⟩ := exists_advanced channel.pipeline quotas
  unfold advance
  rw [ensures_bind, ensures_get, ensures_bind, hadvance]
  exact h pipeline moves hadvanced

lemma ensures_pop (channel : Channel κ) : Ensures pop channel
    (fun superpage last => Popped channel.pipeline superpage last.pipeline ∧
      last = { channel with pipeline := last.pipeline })
    (fun _ last => last = channel) := by
  unfold pop
  rw [ensures_bind, ensures_get, ensures_bind, ensures_ofExcept]
  constructor
  · rintro ⟨superpage, pipeline⟩ hpop
    exact ⟨popped_of_pop hpop, rfl⟩
  · intro e _
    rfl

lemma ensures_peek (channel : Channel κ) : Ensures peek channel
    (fun superpage last => channel.pipeline.peek = .ok superpage ∧ last = channel)
    (fun _ last => last = channel) := by
  unfold peek
  rw [ensures_bind, ensures_get, ensures_ofExcept]
  exact ⟨fun superpage hpeek => ⟨hpeek, rfl⟩, fun e _ => rfl⟩

lemma lastState_peek (channel : Channel κ) : lastState peek channel = channel := by
  have hsame : Ensures peek channel (fun _ last => last = channel)
      (fun _ last => last = channel) := by
    apply (ensures_peek channel).mono
    · intro superpage last hlast
      exact hlast.2
    · intro e last hlast
      exact hlast
  exact hsame.of_lastState

lemma pop_updates (channel : Channel κ) : Ensures pop channel
    (fun _ last => Update channel.pipeline last.pipeline)
    (fun _ last => Update channel.pipeline last.pipeline) := by
  apply (ensures_pop channel).mono
  · rintro superpage last ⟨hpopped, -⟩
    exact .pop hpopped
  · rintro e last rfl
    exact .keep _

lemma peek_updates (channel : Channel κ) : Ensures peek channel
    (fun _ last => Update channel.pipeline last.pipeline)
    (fun _ last => Update channel.pipeline last.pipeline) := by
  apply (ensures_peek channel).mono
  · rintro superpage last ⟨-, rfl⟩
    exact .keep _
  · rintro e last rfl
    exact .keep _

end Channel

namespace Endpoint

variable {endpoint : Endpoint κ} {channel : Channel κ}

/-- Once a link was chosen, all depends on the card. -/
theorem ensures_submit_of_nextLink (endpoint : Endpoint κ) {place : Nat} {link : Link}
    (hnext : channel.pipeline.nextLink = .ok (place, link)) (superpage : Superpage)
    (pages : UInt32) (busAddress : UInt64) :
    Ensures (endpoint.submit superpage pages busAddress) channel
      (fun id last => id = link.id ∧
        Enqueued channel.pipeline place link superpage last.pipeline ∧
        last.lifecycle = channel.lifecycle ∧
        last.journal = channel.journal.count (.superpagePushed link.id) ∧
        endpoint.registers.perform (.write (.pushSuperpage link.id pages busAddress))
          channel.card = (.ok (), last.card))
      (fun e last => ∃ fault, e = .hardware fault ∧ last = { channel with card := last.card } ∧
        endpoint.registers.perform (.write (.pushSuperpage link.id pages busAddress))
          channel.card = (.error fault, last.card)) := by
  obtain ⟨pipeline, henqueue, henqueued⟩ := exists_enqueued hnext superpage
  unfold submit write
  rw [ensures_bind, ensures_get, hnext]
  change Ensures (endpoint.access (.write (.pushSuperpage link.id pages busAddress)) >>= _)
    channel _ _
  rw [ensures_bind, ensures_access]
  constructor
  · intro reply card hperform
    rw [ensures_bind, ensures_get, henqueue]
    exact ⟨rfl, henqueued, rfl, rfl, hperform⟩
  · intro fault card hperform
    exact ⟨fault, rfl, rfl, hperform⟩

lemma submit_of_no_link {e : ReadoutError} (hnext : channel.pipeline.nextLink = .error e)
    (superpage : Superpage) (pages : UInt32) (busAddress : UInt64) :
    endpoint.submit superpage pages busAddress channel = .error e channel := by
  have hget : (get : ChannelM κ (Channel κ)) channel = .ok channel channel := rfl
  unfold submit
  rw [bind_of_ok hget, hnext]
  rfl

/-- A superpage is queued on the link that the card took its descriptor for. -/
theorem ensures_submit (endpoint : Endpoint κ) (channel : Channel κ) (superpage : Superpage)
    (pages : UInt32) (busAddress : UInt64) :
    Ensures (endpoint.submit superpage pages busAddress) channel
      (fun id last => ∃ place link, id = link.id ∧
        Enqueued channel.pipeline place link superpage last.pipeline ∧
        last.lifecycle = channel.lifecycle ∧
        last.journal = channel.journal.count (.superpagePushed link.id) ∧
        endpoint.registers.perform (.write (.pushSuperpage link.id pages busAddress))
          channel.card = (.ok (), last.card))
      (fun _ last => last = channel ∨ ∃ link ∈ channel.pipeline.links, ∃ fault,
        last = { channel with card := last.card } ∧
        endpoint.registers.perform (.write (.pushSuperpage link.id pages busAddress))
          channel.card = (.error fault, last.card)) := by
  cases hnext : channel.pipeline.nextLink with
  | error e =>
    unfold Ensures
    rw [submit_of_no_link hnext]
    exact .inl rfl
  | ok chosen =>
    obtain ⟨place, link⟩ := chosen
    have hlink := List.mem_of_getElem? (chosen_of_nextLink hnext).2.1.found
    apply (endpoint.ensures_submit_of_nextLink hnext superpage pages busAddress).mono
    · intro id last hlast
      exact ⟨place, link, hlast⟩
    · rintro e last ⟨fault, -, hlast⟩
      exact .inr ⟨link, hlink, fault, hlast⟩

/-- Whatever is polled, nothing is moved before all answers are in. -/
theorem ensures_collect {ok : Nat → Channel κ → Prop} {failed : ReadoutError → Channel κ → Prop}
    (h : Ensures (endpoint.pollArrivals channel.pipeline.links) channel
      (fun arrivals polled => ∀ pipeline moves,
        Advanced polled.pipeline arrivals pipeline moves →
        ok (Link.totalMoved moves)
          { polled with pipeline, journal := polled.journal.countMoves moves }) failed) :
    Ensures endpoint.collect channel ok failed := by
  unfold collect
  rw [ensures_bind, ensures_get, ensures_bind]
  apply h.mono
  · intro arrivals polled hmoves
    exact Channel.ensures_advance hmoves
  · intro e polled hfailed
    exact hfailed

/-- A drain ends after the moves, with or without an error. -/
theorem ensures_drain {P : Channel κ → Prop}
    (h : Ensures (endpoint.readArrivals channel.pipeline.links) channel
      (fun answer read => ∀ pipeline moves,
        Advanced read.pipeline (answer.1.map (· + 1)) pipeline moves →
        P { read with pipeline, journal := read.journal.countMoves moves })
      (fun _ read => P read)) :
    Ensures endpoint.drain channel (fun _ last => P last) (fun _ last => P last) := by
  unfold drain
  rw [ensures_bind, ensures_get, ensures_bind]
  apply h.mono
  · rintro ⟨arrivals, fault?⟩ read hmoves
    rw [ensures_bind]
    apply Channel.ensures_advance
    intro pipeline moves hadvanced
    have hlast := hmoves pipeline moves hadvanced
    cases fault? with
    | some fault => exact hlast
    | none =>
      rw [ensures_bind, ensures_get, ensures_bind, ensures_ofExcept]
      exact ⟨fun _ _ => hlast, fun _ _ => hlast⟩
  · intro e read hread
    exact hread

lemma collect_advances (endpoint : Endpoint κ) (channel : Channel κ) :
    Ensures endpoint.collect channel
      (fun _ last => last.lifecycle = channel.lifecycle ∧ ∃ arrivals moves,
        Advanced channel.pipeline arrivals last.pipeline moves)
      (fun _ last => last.standing = channel.standing) := by
  apply ensures_collect
  apply (keeps_pollArrivals endpoint channel.pipeline.links channel).mono
  · intro arrivals polled hpolled pipeline moves hadvanced
    have hlifecycle := Channel.lifecycle_of_standing hpolled
    rw [Channel.pipeline_of_standing hpolled] at hadvanced
    exact ⟨hlifecycle, arrivals, moves, hadvanced⟩
  · intro e polled hpolled
    exact hpolled

lemma lastState_collect (endpoint : Endpoint κ) (channel : Channel κ) :
    (lastState endpoint.collect channel).lifecycle = channel.lifecycle ∧ ∃ quotas moves,
      Advanced channel.pipeline quotas (lastState endpoint.collect channel).pipeline moves := by
  have hcollect : Ensures endpoint.collect channel
      (fun _ last => last.lifecycle = channel.lifecycle ∧ ∃ quotas moves,
        Advanced channel.pipeline quotas last.pipeline moves)
      (fun _ last => last.lifecycle = channel.lifecycle ∧ ∃ quotas moves,
        Advanced channel.pipeline quotas last.pipeline moves) := by
    apply (collect_advances endpoint channel).mono
    · intro moved last hlast
      exact hlast
    · intro e last hlast
      rw [Channel.pipeline_of_standing hlast]
      exact ⟨Channel.lifecycle_of_standing hlast, [], [], Advanced.refl _⟩
  exact hcollect.of_lastState

lemma drain_advances (endpoint : Endpoint κ) (channel : Channel κ) :
    Ensures endpoint.drain channel
      (fun _ last => last.lifecycle = channel.lifecycle ∧ ∃ quotas moves,
        Advanced channel.pipeline quotas last.pipeline moves)
      (fun _ last => last.lifecycle = channel.lifecycle ∧ ∃ quotas moves,
        Advanced channel.pipeline quotas last.pipeline moves) := by
  apply ensures_drain
  apply (keeps_readArrivals endpoint channel.pipeline.links channel).mono
  · intro answer read hread pipeline moves hadvanced
    have hlifecycle := Channel.lifecycle_of_standing hread
    rw [Channel.pipeline_of_standing hread] at hadvanced
    exact ⟨hlifecycle, _, moves, hadvanced⟩
  · intro e read hread
    rw [Channel.pipeline_of_standing hread]
    exact ⟨Channel.lifecycle_of_standing hread, [], [], Advanced.refl _⟩

end Endpoint

end DmaReadout
