import DmaReadout.Proofs.Operations
import DmaReadout.SimulatedCard.Control

/-!
# Accesses to a simulated card

The registers of a simulated card may be guarded by anything that refuses accesses. What is
not refused has its known effect; what is refused has none. This file follows the counters of
the card through the programs of a channel.
-/

namespace DmaReadout

variable {γ : Type}

namespace SimulatedCard

variable {card card' card'' : SimulatedCard}

/-- The card has answered reads only, if anything: what it completed, it had been given. -/
structure Looked (card card' : SimulatedCard) : Prop where
  completion : card'.completion = card.completion
  pushed : ∀ id, card'.pushed id = card.pushed id
  arrived : ∀ id, card'.arrived id = card.arrived id ∨
    card.completion = .immediate ∧ card'.arrived id = card.pushed id

lemma Looked.of_counters (hcompletion : card'.completion = card.completion)
    (hcounters : card'.counters = card.counters) : Looked card card' where
  completion := hcompletion
  pushed id := by
    unfold SimulatedCard.pushed
    rw [hcounters]
  arrived id := by
    unfold SimulatedCard.arrived
    rw [hcounters]
    exact .inl rfl

lemma Looked.refl (card : SimulatedCard) : Looked card card :=
  .of_counters rfl rfl

lemma Looked.trans (h : Looked card card') (h' : Looked card' card'') : Looked card card'' where
  completion := h'.completion.trans h.completion
  pushed id := (h'.pushed id).trans (h.pushed id)
  arrived id := by
    rcases h'.arrived id with h₂ | ⟨himmediate, h₂⟩
    · rw [h₂]
      exact h.arrived id
    · rw [h.completion] at himmediate
      rw [h.pushed id] at h₂
      exact .inr ⟨himmediate, h₂⟩

/-- To read a counter changes counters at most. -/
lemma exists_counters_after (card : SimulatedCard) (link : LinkId) :
    ∃ counters, card.after (.superpageCount link) = { card with counters } := by
  obtain ⟨completion⟩ := card
  cases completion with
  | immediate => exact ⟨_, rfl⟩
  | manual => exact ⟨_, rfl⟩

lemma Looked.after_superpageCount (card : SimulatedCard) (link : LinkId) :
    Looked card (card.after (.superpageCount link)) := by
  unfold after
  cases hcompletion : card.completion with
  | manual => exact Looked.refl card
  | immediate =>
    dsimp only [updateCounters]
    constructor
    · rfl
    · intro id
      simp only [SimulatedCard.pushed, CounterTable.get_modify]
      by_cases hid : link = id
      · rw [if_pos hid, hid]
      · rw [if_neg hid]
    · intro id
      simp only [SimulatedCard.arrived, CounterTable.get_modify]
      by_cases hid : link = id
      · rw [if_pos hid]
        subst hid
        exact .inr ⟨hcompletion, rfl⟩
      · rw [if_neg hid]
        exact .inl rfl

/-- Once a counter was read, it does not change in further reads. -/
lemma arrived_of_looked {link : LinkId} (h : Looked (card.after (.superpageCount link)) card') :
    card'.arrived link = (card.after (.superpageCount link)).arrived link := by
  rcases h.arrived link with hsame | ⟨himmediate, hpushed⟩
  · exact hsame
  · rw [hpushed]
    have hcompletion := (Looked.after_superpageCount card link).completion
    rw [himmediate] at hcompletion
    unfold after
    rw [← hcompletion]
    simp [SimulatedCard.pushed, SimulatedCard.arrived, updateCounters]

/-- Only a test changes how the card completes, what it dropped and which fault is pending. -/
lemma after_frame (card : SimulatedCard) (access : Access) :
    (card.after access).completion = card.completion ∧
      (card.after access).droppedPackets = card.droppedPackets ∧
      (card.after access).failNext = card.failNext := by
  cases access with
  | write command => cases command <;> exact ⟨rfl, rfl, rfl⟩
  | superpageCount link =>
    obtain ⟨counters, hafter⟩ := card.exists_counters_after link
    rw [hafter]
    exact ⟨rfl, rfl, rfl⟩
  | debugMode => exact ⟨rfl, rfl, rfl⟩
  | droppedPackets => exact ⟨rfl, rfl, rfl⟩

/-- An access is refused by the guard, fails with the fault that is pending, or has its effect. -/
theorem guarded_perform_iff {refuse : Access → γ → Option Fault × γ} {access : Access}
    {card card' : γ × SimulatedCard} {reply : Except Fault access.Reply} :
    (registers.guarded refuse).perform access card = (reply, card') ↔
      (∃ fault, refuse access card.1 = (some fault, card'.1) ∧ reply = .error fault ∧
        card'.2 = card.2) ∨
      (∃ cause, refuse access card.1 = (none, card'.1) ∧ card.2.failNext = some cause ∧
        reply = .error (.because cause) ∧ card'.2 = { card.2 with failNext := none }) ∨
      refuse access card.1 = (none, card'.1) ∧ card.2.failNext = none ∧
        reply = .ok (card'.2.reply access) ∧ card'.2 = card.2.after access := by
  constructor
  · intro hperform
    unfold Registers.guarded at hperform
    dsimp only at hperform
    rcases hrefuse : refuse access card.1 with ⟨_ | fault, guard⟩
    · rw [hrefuse] at hperform
      unfold registers at hperform
      dsimp only at hperform
      cases hnext : card.2.failNext with
      | some cause =>
        rw [hnext, Prod.mk.injEq] at hperform
        obtain ⟨rfl, rfl⟩ := hperform
        exact .inr (.inl ⟨cause, rfl, rfl, rfl, rfl⟩)
      | none =>
        rw [hnext, Prod.mk.injEq] at hperform
        obtain ⟨rfl, rfl⟩ := hperform
        exact .inr (.inr ⟨rfl, rfl, rfl, rfl⟩)
    · rw [hrefuse, Prod.mk.injEq] at hperform
      obtain ⟨rfl, rfl⟩ := hperform
      exact .inl ⟨fault, rfl, rfl, rfl⟩
  · obtain ⟨guard, next⟩ := card'
    rintro (⟨fault, hrefuse, rfl, rfl⟩ | ⟨cause, hrefuse, hnext, rfl, rfl⟩ |
      ⟨hrefuse, hnext, rfl, rfl⟩)
    · simp only [Registers.guarded, hrefuse]
    · simp only [Registers.guarded, hrefuse, registers, hnext]
    · simp only [Registers.guarded, hrefuse, registers, hnext]

end SimulatedCard

open SimulatedCard (Looked)

/-- Where a channel stands, with the counters of its card. -/
def Channel.tally (channel : Channel (γ × SimulatedCard)) :
    (Lifecycle × Pipeline) × Completion × CounterTable :=
  (channel.standing, channel.card.2.completion, channel.card.2.counters)

section Tally

variable {channel last : Channel (γ × SimulatedCard)}

lemma Channel.standing_of_tally (h : last.tally = channel.tally) :
    last.standing = channel.standing :=
  congrArg Prod.fst h

lemma Channel.counters_of_tally (h : last.tally = channel.tally) :
    last.card.2.counters = channel.card.2.counters :=
  congrArg (fun tally => tally.2.2) h

lemma Channel.looked_of_tally (h : last.tally = channel.tally) :
    Looked channel.card.2 last.card.2 := by
  have hcompletion := congrArg (fun tally => tally.2.1) h
  exact Looked.of_counters hcompletion (counters_of_tally h)

end Tally

namespace Endpoint

/-- The endpoint is on a simulated card, behind whatever may refuse an access. -/
def Simulated (endpoint : Endpoint (γ × SimulatedCard)) : Prop :=
  ∃ refuse, endpoint.registers = SimulatedCard.registers.guarded refuse

namespace Simulated

variable {endpoint : Endpoint (γ × SimulatedCard)} {channel : Channel (γ × SimulatedCard)}

/-- An access fails without effect, but for a fault that it uses up, or has its effect. -/
theorem perform_cases (h : endpoint.Simulated) {access : Access}
    {reply : Except Fault access.Reply} {card card' : γ × SimulatedCard}
    (hperform : endpoint.registers.perform access card = (reply, card')) :
    (∃ fault failNext, reply = .error fault ∧ card'.2 = { card.2 with failNext }) ∨
      reply = .ok (card'.2.reply access) ∧ card'.2 = card.2.after access := by
  obtain ⟨refuse, hregisters⟩ := h
  rw [hregisters, SimulatedCard.guarded_perform_iff] at hperform
  rcases hperform with ⟨fault, -, hreply, hcard⟩ | ⟨cause, -, -, hreply, hcard⟩ |
    ⟨-, -, hreply, hcard⟩
  · exact .inl ⟨fault, card.2.failNext, hreply, hcard⟩
  · exact .inl ⟨.because cause, none, hreply, hcard⟩
  · exact .inr ⟨hreply, hcard⟩

theorem ensures_access (h : endpoint.Simulated) {access : Access}
    {ok : access.Reply → Channel (γ × SimulatedCard) → Prop}
    {failed : ReadoutError → Channel (γ × SimulatedCard) → Prop}
    (hok : ∀ card, card.2 = channel.card.2.after access →
      ok (card.2.reply access) { channel with card })
    (hfailed : ∀ fault card, Looked channel.card.2 card.2 →
      failed (.hardware fault) { channel with card }) :
    Ensures (endpoint.access access) channel ok failed := by
  rw [Endpoint.ensures_access]
  constructor
  · intro reply card hperform
    rcases h.perform_cases hperform with ⟨_, _, herror, _⟩ | ⟨hreply, hcard⟩
    · cases herror
    · cases hreply
      exact hok card hcard
  · intro fault card hperform
    rcases h.perform_cases hperform with ⟨_, failNext, _, hcard⟩ | ⟨hreply, _⟩
    · apply hfailed
      rw [hcard]
      exact Looked.of_counters rfl rfl
    · cases hreply

/-- An access that succeeds leaves no fault pending. -/
lemma access_awake (h : endpoint.Simulated) (access : Access) :
    Ensures (endpoint.access access) channel (fun _ last => last.card.2.failNext = none)
      (fun _ _ => True) := by
  obtain ⟨refuse, hregisters⟩ := h
  rw [Endpoint.ensures_access, hregisters]
  refine ⟨?_, fun _ _ _ => trivial⟩
  intro reply card hperform
  rw [SimulatedCard.guarded_perform_iff] at hperform
  rcases hperform with ⟨_, -, hreply, -⟩ | ⟨_, -, -, hreply, -⟩ | ⟨-, hnext, -, hcard⟩
  · cases hreply
  · cases hreply
  · rw [hcard]
    exact (channel.card.2.after_frame access).2.2.trans hnext

lemma keeps_access (h : endpoint.Simulated) {access : Access}
    (hquiet : ∀ card : SimulatedCard, (card.after access).counters = card.counters ∧
      (card.after access).completion = card.completion) :
    Keeps Channel.tally (endpoint.access access) := by
  intro channel
  rw [Endpoint.ensures_access]
  constructor
  · intro reply card hperform
    rcases h.perform_cases hperform with ⟨_, _, hreply, _⟩ | ⟨_, hcard⟩
    · cases hreply
    · simp only [Channel.tally, hcard, hquiet, Channel.standing]
  · intro fault card hperform
    rcases h.perform_cases hperform with ⟨_, failNext, _, hcard⟩ | ⟨hreply, _⟩
    · simp only [Channel.tally, hcard, Channel.standing]
    · cases hreply

lemma keeps_beginDataTaking (h : endpoint.Simulated) (source : DataSource) :
    Keeps Channel.tally (endpoint.beginDataTaking source) := by
  unfold beginDataTaking
  apply (h.keeps_access fun _ => ⟨rfl, rfl⟩).bind
  intro _
  exact Keeps.ite (h.keeps_access fun _ => ⟨rfl, rfl⟩) (Keeps.pure _)

/-- A reset that succeeds leaves the card without counts, whatever it had counted. -/
lemma resetCard_blank (h : endpoint.Simulated) {level : ResetLevel} (hlevel : level ≠ .nothing) :
    Ensures (endpoint.resetCard level) channel (fun _ last => last.card.2.counters = {})
      (fun _ _ => True) := by
  unfold resetCard
  rw [if_pos hlevel]
  extract_lets family finish reset
  have hfinish (channel : Channel (γ × SimulatedCard)) (hblank : channel.card.2.counters = {}) :
      Ensures (finish ()) channel (fun _ last => last.card.2.counters = {}) (fun _ _ => True) :=
    hblank
  have hreset (channel : Channel (γ × SimulatedCard)) :
      Ensures (reset ()) channel (fun _ last => last.card.2.counters = {}) (fun _ _ => True) := by
    apply Ensures.skip
    intro _ channel
    apply Ensures.skip
    intro _ channel
    rw [ensures_bind]
    apply h.ensures_access
    · intro card hcard
      have hblank : card.2.counters = {} := by
        rw [hcard]
        rfl
      by_cases hexternal : (level.includesExternal && decide (family = .crorc)) = true
      · rw [if_pos hexternal]
        apply (h.keeps_access fun _ => ⟨rfl, rfl⟩).ensures_bind
        · intro _ last hlast
          exact hfinish last ((Channel.counters_of_tally hlast).trans hblank)
        · intro e last _
          trivial
      · rw [if_neg hexternal]
        exact hfinish _ hblank
    · intro fault card _
      trivial
  by_cases hexternal : (level.includesExternal && decide (family ≠ .crorc)) = true
  · rw [if_pos hexternal]
    apply Ensures.skip
    intro _ channel
    exact hreset channel
  · rw [if_neg hexternal]
    exact hreset channel

lemma prepare_blank (h : endpoint.Simulated) (source : DataSource) :
    Ensures (endpoint.prepare source) channel (fun _ last => last.card.2.counters = {})
      (fun _ _ => True) := by
  have hlevel := endpoint.startLevel_ne_nothing
  unfold prepare
  extract_lets parameters configure
  have hconfigure (channel : Channel (γ × SimulatedCard)) :
      Ensures (configure ()) channel (fun _ last => last.card.2.counters = {})
        (fun _ _ => True) := by
    apply Ensures.skip
    intro _ channel
    apply Ensures.skip
    intro _ channel
    apply Ensures.skip
    intro _ channel
    apply Ensures.skip
    intro _ channel
    rw [ensures_bind]
    apply (h.resetCard_blank hlevel).mono
    · intro _ last hblank
      exact hblank
    · intro e last _
      trivial
  by_cases hgenerator : parameters.generatorEnabled = true
  · rw [if_pos hgenerator]
    apply Ensures.skip
    intro _ channel
    exact hconfigure channel
  · rw [if_neg hgenerator]
    exact hconfigure channel

lemma arm_quiet (h : endpoint.Simulated) (source : DataSource) :
    Ensures (endpoint.arm source) channel (fun _ last => last.tally = channel.tally)
      (fun _ _ => True) := by
  unfold arm
  apply (h.keeps_access fun _ => ⟨rfl, rfl⟩).ensures_bind
  · intro _ armed harmed
    rw [ensures_bind, ensures_tryCatch]
    apply (h.keeps_beginDataTaking source armed).mono
    · intro _ begun hbegun
      exact hbegun.trans harmed
    · intro e _ _
      apply Ensures.skip
      intro _ _
      trivial
  · intro e last _
    trivial

/-- A start that succeeds has reset the card. -/
theorem configureAndArm_blank (h : endpoint.Simulated) :
    Ensures endpoint.configureAndArm channel (fun _ last => last.card.2.counters = {})
      (fun _ _ => True) := by
  rw [configureAndArm_eq]
  apply Ensures.skip
  intro source channel
  rw [ensures_bind]
  apply (h.prepare_blank source).mono
  · intro _ prepared hprepared
    rw [ensures_bind, ensures_modify]
    apply (h.arm_quiet source).mono
    · intro _ last hlast
      exact (Channel.counters_of_tally hlast).trans hprepared
    · intro e last _
      trivial
  · intro e last _
    trivial

end Simulated

end Endpoint

end DmaReadout
