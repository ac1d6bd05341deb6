import DmaReadout.Proofs.Transfers

/-!
# What operations do to the lifecycle and the queues

For every operation on a channel, both outcomes: where the channel stands afterwards, and
what has become of its queues.
-/

namespace DmaReadout

open Pipeline (Advanced Enqueued Update)

variable {κ : Type}

namespace Endpoint

/-- The external reset, with the reset of the card before it. -/
def resetWithLink (endpoint : Endpoint κ) (level : ResetLevel) : ChannelM κ Unit := do
  endpoint.write .resetCard
  endpoint.write (.resetExternal level.includesSiu)

/-- The part of starting before the queues are cleared, which resets the card. -/
def prepare (endpoint : Endpoint κ) (source : DataSource) : ChannelM κ Unit := do
  let parameters := endpoint.parameters
  if parameters.generatorEnabled then
    endpoint.write
      (.setGeneratorPattern parameters.generatorPattern parameters.dataSize
        parameters.randomSize)
  endpoint.ensureDebugMode
  endpoint.write (.setDataSource source)
  Channel.note (.dataSourceSelected source)
  Channel.setLifecycle .resetting
  endpoint.resetCard endpoint.startLevel
  Channel.setLifecycle .starting

/-- The part of starting after the queues were cleared, which lets the card write. -/
def arm (endpoint : Endpoint κ) (source : DataSource) : ChannelM κ Unit := do
  endpoint.write (.setBufferReady true)
  try
    endpoint.beginDataTaking source
  catch e =>
    endpoint.abandonStart
    throw e
  Channel.note (.started source)

lemma startLevel_ne_nothing (endpoint : Endpoint κ) : endpoint.startLevel ≠ .nothing := by
  unfold startLevel
  cases hlevel : endpoint.parameters.resetLevel <;> simp

/-- Starting clears the queues between preparing and arming the card. -/
theorem configureAndArm_eq (endpoint : Endpoint κ) :
    endpoint.configureAndArm = (do
      let source ← ofExcept (DataSource.resolve endpoint.parameters.family
        endpoint.parameters.generatorEnabled endpoint.parameters.loopback)
      endpoint.prepare source
      modify fun channel => { channel with pipeline := channel.pipeline.clear }
      endpoint.arm source) := by
  unfold configureAndArm prepare arm
  extract_lets parameters
  congr 1
  funext source
  dsimp only
  by_cases hgenerator : parameters.generatorEnabled = true
  · rw [if_pos hgenerator, if_pos hgenerator]
    simp only [bind_assoc]
    rfl
  · rw [if_neg hgenerator, if_neg hgenerator]
    simp only [bind_assoc]
    rfl

lemma keeps_prepare (endpoint : Endpoint κ) (source : DataSource) :
    Keeps Channel.pipeline (endpoint.prepare source) := by
  have hkeep {α : Type} {program : ChannelM κ α} (h : Keeps Channel.standing program) :
      Keeps Channel.pipeline program := h.comp Prod.snd
  have hlifecycle (lifecycle : Lifecycle) :
      Keeps Channel.pipeline (Channel.setLifecycle lifecycle : ChannelM κ Unit) :=
    Keeps.modify fun _ => rfl
  unfold prepare
  extract_lets parameters configure
  have hconfigure (r : Unit) : Keeps Channel.pipeline (configure r) := by
    apply (hkeep (keeps_ensureDebugMode endpoint)).bind
    intro _
    apply (hkeep (keeps_write endpoint _)).bind
    intro _
    apply (hkeep (Channel.keeps_note _)).bind
    intro _
    apply (hlifecycle _).bind
    intro _
    apply (hkeep (keeps_resetCard endpoint _)).bind
    intro _
    exact hlifecycle _
  exact Keeps.ite ((hkeep (keeps_write endpoint _)).bind hconfigure) (hconfigure ())

lemma keeps_arm (endpoint : Endpoint κ) (source : DataSource) :
    Keeps Channel.standing (endpoint.arm source) := by
  unfold arm
  apply (keeps_write endpoint _).bind
  intro _
  apply Keeps.bind
  · apply (keeps_beginDataTaking endpoint source).tryCatch
    intro e
    exact (keeps_abandonStart endpoint).bind fun _ => Keeps.throw _
  · intro _
    exact Channel.keeps_note _

/-- The queues are cleared once the card was reset, and are not touched otherwise. -/
theorem configureAndArm_clears (endpoint : Endpoint κ) (channel : Channel κ) :
    Ensures endpoint.configureAndArm channel
      (fun _ last => last.pipeline = channel.pipeline.clear)
      (fun _ last => last.pipeline = channel.pipeline ∨
        last.pipeline = channel.pipeline.clear) := by
  rw [configureAndArm_eq, ensures_bind, ensures_ofExcept]
  constructor
  · intro source _
    apply (keeps_prepare endpoint source).ensures_bind
    · intro _ prepared hprepared
      rw [ensures_bind, ensures_modify]
      have hclear : prepared.pipeline.clear = channel.pipeline.clear := by
        rw [hprepared]
      apply (keeps_arm endpoint source _).mono
      · intro _ last hlast
        exact (Channel.pipeline_of_standing hlast).trans hclear
      · intro e last hlast
        exact .inr ((Channel.pipeline_of_standing hlast).trans hclear)
    · intro e last hlast
      exact .inl hlast
  · intro e _
    exact .inl rfl

/-- A stopped channel runs with cleared queues, or stays stopped. -/
theorem start_standing (endpoint : Endpoint κ) (channel : Channel κ) :
    Ensures endpoint.start channel
      (fun _ last => channel.lifecycle = .stopped ∧ last.lifecycle = .running ∧
          last.pipeline = channel.pipeline.clear ∨
        channel.lifecycle = .running ∧ last.standing = channel.standing)
      (fun _ last => channel.lifecycle = .stopped ∧ last.lifecycle = .stopped ∧
          (last.pipeline = channel.pipeline ∨ last.pipeline = channel.pipeline.clear) ∨
        last = channel) := by
  unfold start
  rw [ensures_bind, ensures_get]
  cases hlifecycle : channel.lifecycle with
  | stopped =>
    dsimp only
    rw [Channel.ensures_transition]
    apply (configureAndArm_clears endpoint _).mono
    · intro _ last hlast
      exact .inl ⟨rfl, rfl, hlast⟩
    · intro e last hlast
      exact .inl ⟨rfl, rfl, hlast⟩
  | running =>
    dsimp only
    rw [Channel.ensures_note]
    exact .inr ⟨rfl, rfl⟩
  | starting => exact .inr rfl
  | stopping => exact .inr rfl
  | resetting => exact .inr rfl

theorem disarmAndDrain_advances (endpoint : Endpoint κ) (channel : Channel κ) :
    Ensures endpoint.disarmAndDrain channel
      (fun _ last => ∃ quotas moves, Advanced channel.pipeline quotas last.pipeline moves)
      (fun _ last => ∃ quotas moves, Advanced channel.pipeline quotas last.pipeline moves) := by
  have hsame {last : Channel κ} (h : last.standing = channel.standing) :
      ∃ quotas moves, Advanced channel.pipeline quotas last.pipeline moves := by
    rw [Channel.pipeline_of_standing h]
    exact ⟨[], [], Advanced.refl _⟩
  unfold disarmAndDrain
  apply (keeps_write endpoint _).ensures_bind
  · intro _ disarmed hdisarmed
    apply (keeps_write endpoint _).ensures_bind
    · intro _ halted hhalted
      have hpipeline := Channel.pipeline_of_standing (hhalted.trans hdisarmed)
      rw [← hpipeline, ensures_bind]
      apply (drain_advances endpoint halted).mono
      · intro moved last hlast
        exact hlast.2
      · intro e last hlast
        exact hlast.2
    · intro e last hlast
      exact hsame (hlast.trans hdisarmed)
  · intro e last hlast
    exact hsame hlast

/-- A running channel is stopped by a stop, even by one that fails. -/
theorem stop_standing (endpoint : Endpoint κ) (channel : Channel κ) :
    Ensures endpoint.stop channel
      (fun _ last => channel.lifecycle = .running ∧ last.lifecycle = .stopped ∧
          (∃ quotas moves, Advanced channel.pipeline quotas last.pipeline moves) ∨
        channel.lifecycle = .stopped ∧ last.standing = channel.standing)
      (fun _ last => channel.lifecycle = .running ∧ last.lifecycle = .stopped ∧
          (∃ quotas moves, Advanced channel.pipeline quotas last.pipeline moves) ∨
        last = channel) := by
  unfold stop
  rw [ensures_bind, ensures_get]
  cases hlifecycle : channel.lifecycle with
  | running =>
    dsimp only
    rw [Channel.ensures_transition]
    apply (disarmAndDrain_advances endpoint _).mono
    · intro _ last hlast
      exact .inl ⟨rfl, rfl, hlast⟩
    · intro e last hlast
      exact .inl ⟨rfl, rfl, hlast⟩
  | stopped =>
    dsimp only
    rw [Channel.ensures_note]
    exact .inr ⟨rfl, rfl⟩
  | starting => exact .inr rfl
  | stopping => exact .inr rfl
  | resetting => exact .inr rfl

/-- A reset never touches the queues, and a stopped channel stays stopped. -/
theorem keeps_reset (endpoint : Endpoint κ) (level : ResetLevel) :
    Keeps Channel.standing (endpoint.reset level) := by
  unfold reset
  apply Keeps.ite _ (Keeps.pure _)
  intro channel
  rw [ensures_bind, ensures_get]
  extract_lets state
  by_cases hstopped : state = .stopped
  · rw [if_pos hstopped, ensures_bind, ensures_ofExcept]
    constructor
    · intro _ _
      rw [Channel.ensures_transition]
      have hstanding (last : Channel κ)
          (h : last.standing = Channel.standing { channel with lifecycle := .resetting }) :
          (Lifecycle.stopped, last.pipeline) = channel.standing := by
        have hpipeline : last.pipeline = channel.pipeline := congrArg Prod.snd h
        rw [hpipeline, ← hstopped]
        rfl
      apply (keeps_resetCard endpoint level _).mono
      · intro _ last hlast
        exact hstanding last hlast
      · intro e last hlast
        exact hstanding last hlast
    · intro e _
      rfl
  · rw [if_neg hstopped]
    rfl

/-- A push that succeeds queues a superpage that was checked where the card took its
descriptor. One that fails has at most tried that. -/
theorem ensures_push (endpoint : Endpoint κ) (superpage : Superpage) (channel : Channel κ) :
    Ensures (endpoint.push superpage) channel
      (fun _ last => channel.lifecycle = .running ∧ last.lifecycle = .running ∧
        ∃ pages busAddress place link,
          endpoint.checkSuperpage superpage = .ok (pages, busAddress) ∧
          Enqueued channel.pipeline place link superpage last.pipeline ∧
          last.journal = channel.journal.count (.superpagePushed link.id) ∧
          endpoint.registers.perform (.write (.pushSuperpage link.id pages busAddress))
            channel.card = (.ok (), last.card))
      (fun _ last => last = channel ∨ ∃ pages busAddress, ∃ link ∈ channel.pipeline.links,
        ∃ fault, last = { channel with card := last.card } ∧
          endpoint.registers.perform (.write (.pushSuperpage link.id pages busAddress))
            channel.card = (.error fault, last.card)) := by
  unfold push
  rw [ensures_bind, ensures_get]
  by_cases hrunning : channel.lifecycle = .running
  · rw [if_pos hrunning, ensures_bind, ensures_ofExcept]
    constructor
    · intro _ _
      rw [ensures_bind, ensures_ofExcept]
      constructor
      · rintro ⟨pages, busAddress⟩ hcheck
        dsimp only
        rw [ensures_discard]
        apply (ensures_submit endpoint channel superpage pages busAddress).mono
        · rintro id last ⟨place, link, -, henqueued, hlifecycle, hjournal, hperform⟩
          exact ⟨hrunning, hlifecycle.trans hrunning, pages, busAddress, place, link, hcheck,
            henqueued, hjournal, hperform⟩
        · rintro e last (rfl | ⟨link, hlink, hfailed⟩)
          · exact .inl rfl
          · exact .inr ⟨pages, busAddress, link, hlink, hfailed⟩
      · intro e _
        exact .inl rfl
    · intro e _
      exact .inl rfl
  · rw [if_neg hrunning]
    exact .inl rfl

/-- Only a running channel polls its card. -/
theorem fill_standing (endpoint : Endpoint κ) (channel : Channel κ) :
    Ensures endpoint.fill channel
      (fun _ last => channel.lifecycle = .running ∧ last.lifecycle = .running ∧
          (∃ quotas moves, Advanced channel.pipeline quotas last.pipeline moves) ∨
        last = channel)
      (fun _ last => last.standing = channel.standing) := by
  unfold fill
  rw [ensures_bind, ensures_get]
  by_cases hrunning : channel.lifecycle = .running
  · rw [if_pos hrunning, ensures_discard]
    apply (collect_advances endpoint channel).mono
    · rintro moved last ⟨hlifecycle, hadvanced⟩
      exact .inl ⟨hrunning, hlifecycle.trans hrunning, hadvanced⟩
    · intro e last hlast
      exact hlast
  · rw [if_neg hrunning]
    exact .inr rfl

lemma keeps_injectError (endpoint : Endpoint κ) :
    Keeps Channel.standing endpoint.injectError := by
  unfold injectError
  apply Keeps.ite _ (Keeps.pure _)
  exact (keeps_write endpoint _).bind fun _ => Keeps.pure _

end Endpoint

/-- Every operation changes the queues in one of the known ways, at most once. -/
theorem Operation.update (endpoint : Endpoint κ) (operation : Operation)
    (channel : Channel κ) :
    Update channel.pipeline (lastState (operation.run endpoint) channel).pipeline := by
  have hkeep {last : Channel κ} (h : last.standing = channel.standing) :
      Update channel.pipeline last.pipeline := by
    rw [Channel.pipeline_of_standing h]
    exact .keep _
  have hall : Ensures (operation.run endpoint) channel
      (fun _ last => Update channel.pipeline last.pipeline)
      (fun _ last => Update channel.pipeline last.pipeline) := by
    cases operation with
    | start =>
      apply (Endpoint.start_standing endpoint channel).mono
      · rintro _ last (⟨-, -, hlast⟩ | ⟨-, hlast⟩)
        · rw [hlast]
          exact .clear _
        · exact hkeep hlast
      · rintro e last (⟨-, -, hlast | hlast⟩ | rfl)
        · rw [hlast]
          exact .keep _
        · rw [hlast]
          exact .clear _
        · exact .keep _
    | stop =>
      apply (Endpoint.stop_standing endpoint channel).mono
      · rintro _ last (⟨-, -, _, _, hadvanced⟩ | ⟨-, hlast⟩)
        · exact .advance hadvanced
        · exact hkeep hlast
      · rintro e last (⟨-, -, _, _, hadvanced⟩ | rfl)
        · exact .advance hadvanced
        · exact .keep _
    | reset level =>
      exact (Endpoint.keeps_reset endpoint level channel).mono (fun _ _ => hkeep)
        (fun _ _ => hkeep)
    | push superpage =>
      apply (Endpoint.ensures_push endpoint superpage channel).mono
      · rintro _ last ⟨-, -, _, _, _, _, -, henqueued, -⟩
        exact .enqueue henqueued
      · rintro e last (rfl | ⟨_, _, _, _, _, hlast, _⟩)
        · exact .keep _
        · rw [hlast]
          exact .keep _
    | fill =>
      apply (Endpoint.fill_standing endpoint channel).mono
      · rintro _ last (⟨-, -, _, _, hadvanced⟩ | rfl)
        · exact .advance hadvanced
        · exact .keep _
      · intro e last hlast
        exact hkeep hlast
    | peek => exact channel.peek_updates
    | pop => exact channel.pop_updates
    | droppedPackets =>
      exact (Endpoint.keeps_access endpoint _ channel).mono (fun _ _ => hkeep) (fun _ _ => hkeep)
    | injectError =>
      exact (Endpoint.keeps_injectError endpoint channel).mono (fun _ _ => hkeep)
        (fun _ _ => hkeep)
  exact hall.of_lastState

/-- Only starting and stopping change where a channel stands. -/
theorem Operation.lifecycle_eq (endpoint : Endpoint κ) {operation : Operation}
    (hstart : operation ≠ .start) (hstop : operation ≠ .stop) (channel : Channel κ) :
    (lastState (operation.run endpoint) channel).lifecycle = channel.lifecycle := by
  have hall : Ensures (operation.run endpoint) channel
      (fun _ last => last.lifecycle = channel.lifecycle)
      (fun _ last => last.lifecycle = channel.lifecycle) := by
    cases operation with
    | start => exact absurd rfl hstart
    | stop => exact absurd rfl hstop
    | reset level => exact (endpoint.keeps_reset level).comp Prod.fst channel
    | push superpage =>
      apply (endpoint.ensures_push superpage channel).mono
      · rintro _ last ⟨hbefore, hafter, -⟩
        rw [hbefore, hafter]
      · rintro e last (rfl | ⟨_, _, _, _, _, hlast, _⟩)
        · rfl
        · rw [hlast]
    | fill =>
      apply (endpoint.fill_standing channel).mono
      · rintro _ last (⟨hbefore, hafter, -⟩ | rfl)
        · rw [hbefore, hafter]
        · rfl
      · intro e last hlast
        exact Channel.lifecycle_of_standing hlast
    | peek =>
      apply (Channel.ensures_peek channel).mono
      · rintro superpage last ⟨-, rfl⟩
        rfl
      · rintro e last rfl
        rfl
    | pop =>
      apply (Channel.ensures_pop channel).mono
      · rintro superpage last ⟨-, hlast⟩
        rw [hlast]
      · rintro e last rfl
        rfl
    | droppedPackets => exact (endpoint.keeps_access _).comp Prod.fst channel
    | injectError => exact endpoint.keeps_injectError.comp Prod.fst channel
  exact hall.of_lastState

end DmaReadout
