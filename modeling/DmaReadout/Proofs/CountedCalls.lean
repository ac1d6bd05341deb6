import DmaReadout.Proofs.CommandLog
import DmaReadout.Proofs.CountedEvents
import DmaReadout.Proofs.Routines

/-!
# What a call counts

Every call counts the descriptors that the card took, the superpages that moved to the ready
queue, a violation of the protocol and the transition it was timed for: all of them, and nothing
else. What it counts can be told from the outside, by the log of the card, the queues before and
after, the error of the call and the state it was made in.
-/

namespace DmaReadout

open Pipeline (Advanced Enqueued)

variable {κ γ : Type}

/-- The link that a command hands a descriptor to. -/
def Command.pushedLink? : Command → Option LinkId
  | .pushSuperpage link _ _ => some link
  | _ => none

/-- The link on which the protocol was violated, if that was the error. -/
def ReadoutError.violatedLink? : ReadoutError → Option LinkId
  | .protocolViolation link .. => some link
  | _ => none

/-- The links of the descriptors that the card took in between. -/
def newlyPushed (before after : Channel (γ × SimulatedCard)) : List LinkId :=
  (newCommands before after).filterMap Command.pushedLink?

/-- The work of starting, up to the point where the queues are cleared. -/
def Endpoint.prepareToStart (endpoint : Endpoint κ) : ChannelM κ Unit := do
  let source ← ofExcept (DataSource.resolve endpoint.parameters.family
    endpoint.parameters.generatorEnabled endpoint.parameters.loopback)
  endpoint.prepare source

namespace Operation

/-- Whether the operation starts the channel and gets as far as to clear its queues, even if it
fails afterwards. -/
def clears (endpoint : Endpoint κ) (channel : Channel κ) : Operation → Bool
  | start => channel.lifecycle = .stopped &&
      (failure? endpoint.prepareToStart { channel with lifecycle := .starting }).isNone
  | _ => false

/-- The link for which the operation, a fill, reports a violation of the protocol. -/
def violation? (endpoint : Endpoint κ) (channel : Channel κ) : Operation → Option LinkId
  | fill => (failure? endpoint.fill channel).bind ReadoutError.violatedLink?
  | _ => none

/-- The transition that the operation begins, whether it succeeds or not. -/
def timed? (endpoint : Endpoint κ) (channel : Channel κ) (operation : Operation) :
    Option Transition :=
  match operation, channel.lifecycle with
  | start, .stopped => some .start
  | stop, .running => some .stop
  | reset level, .stopped =>
    let check :=
      ResetLevel.check endpoint.parameters.family level endpoint.parameters.loopback
    if level ≠ .nothing ∧ check.isOk then some .reset else none
  | _, _ => none

/-- The events that the operation has counted are those that took place. -/
structure Reckons (operation : Operation) (endpoint : Endpoint (γ × SimulatedCard))
    (channel : Channel (γ × SimulatedCard)) (events : CallEvents)
    (last : Channel (γ × SimulatedCard)) : Prop where
  counted : channel.Counted events last
  pushed : events.pushed = newlyPushed channel last
  moved : ∀ id, Link.lost id events.moves = operation.moved id channel last
  violation : events.violation? = operation.violation? endpoint channel
  timed : events.timed? = operation.timed? endpoint channel
  /-- What is pushed to a link waits there until it is moved off. -/
  pending : operation.clears endpoint channel = false → ∀ id,
    last.pipeline.pendingOn id + Link.lost id events.moves =
      channel.pipeline.pendingOn id + events.pushed.count id
  cleared : operation.clears endpoint channel = true → ∀ id, last.pipeline.pendingOn id = 0

end Operation

def SameMetrics (channel last : Channel κ) : Prop :=
  last.journal.metrics = channel.journal.metrics

lemma sameMetrics_lasting : Lasting (SameMetrics (κ := κ)) where
  same _ _ hmetrics := hmetrics
  trans h h' := h'.trans h

namespace Endpoint

lemma perform_sameMetrics (endpoint : Endpoint κ) (access : Access) :
    Observes SameMetrics (endpoint.perform access) := by
  intro channel
  rw [ensures_perform]
  intro reply card _
  rfl

/-- Only transfers and the ends of transitions are counted. -/
lemma sameMetrics_routine (endpoint : Endpoint κ) : endpoint.Routine SameMetrics where
  toLasting := sameMetrics_lasting
  perform access _ := endpoint.perform_sameMetrics access
  ensureDebugMode := by
    refine Observes.ite (fun _ => ?_) fun _ => sameMetrics_lasting.pure _
    apply sameMetrics_lasting.bind (sameMetrics_lasting.access (endpoint.perform_sameMetrics _))
    intro enabled
    cases enabled with
    | true => exact sameMetrics_lasting.pure _
    | false =>
      apply sameMetrics_lasting.bind
        (sameMetrics_lasting.access (endpoint.perform_sameMetrics _))
      intro _ channel
      rfl
  resetWithLink level _ _ _ := by
    apply sameMetrics_lasting.bind (sameMetrics_lasting.access (endpoint.perform_sameMetrics _))
    intro _
    exact sameMetrics_lasting.access (endpoint.perform_sameMetrics _)

lemma close_sameMetrics (endpoint : Endpoint κ) (channel : Channel κ) :
    SameMetrics channel (endpoint.close channel) := by
  have hattempt (command : Command) (record : Fault → LogRecord) :
      Observes SameMetrics (endpoint.attempt command record) :=
    sameMetrics_lasting.attempt (endpoint.perform_sameMetrics _)
  have hshutDown : Observes SameMetrics endpoint.shutDown := by
    apply sameMetrics_lasting.bind (hattempt _ _)
    intro _
    refine Observes.get_bind fun channel => ?_
    have hrestore (r : Unit) : Observes SameMetrics (do
        if channel.debugModeSet then
          endpoint.attempt (.setDebugMode false) .debugModeOffFailed) :=
      Observes.ite (fun _ => hattempt _ _) fun _ => sameMetrics_lasting.pure _
    exact Observes.ite (fun _ => sameMetrics_lasting.bind (sameMetrics_lasting.note _) hrestore)
      fun _ => hrestore ()
  rw [close_eq]
  exact hshutDown.lastState channel

variable {endpoint : Endpoint κ} {channel : Channel κ}

/-- The queues are cleared if everything went well up to there. -/
lemma configureAndArm_pipeline (endpoint : Endpoint κ) (channel : Channel κ) :
    Ensures endpoint.configureAndArm channel
      (fun _ last => last.pipeline =
        if (failure? endpoint.prepareToStart channel).isNone then channel.pipeline.clear
        else channel.pipeline)
      (fun _ last => last.pipeline =
        if (failure? endpoint.prepareToStart channel).isNone then channel.pipeline.clear
        else channel.pipeline) := by
  rw [configureAndArm_eq]
  cases hresolve : DataSource.resolve endpoint.parameters.family
      endpoint.parameters.generatorEnabled endpoint.parameters.loopback with
  | error e =>
    have hfails : failure? endpoint.prepareToStart channel = some e := by
      unfold prepareToStart
      rw [hresolve]
      rfl
    rw [hfails]
    rfl
  | ok source =>
    have hprepare : endpoint.prepareToStart = endpoint.prepare source := by
      unfold prepareToStart
      rw [hresolve]
      rfl
    rw [hprepare]
    change Ensures (endpoint.prepare source >>= _) channel _ _
    rw [ensures_bind]
    apply ((endpoint.keeps_prepare source channel).and (ensures_failure _ channel)).mono
    · rintro _ prepared ⟨hprepared, hnone⟩
      rw [ensures_bind, ensures_modify, hnone, hprepared]
      apply (endpoint.keeps_arm source _).mono
      · intro _ last hlast
        exact Channel.pipeline_of_standing hlast
      · intro e last hlast
        exact Channel.pipeline_of_standing hlast
    · rintro e last ⟨hlast, hsome⟩
      rw [hsome]
      exact hlast

theorem start_pipeline (endpoint : Endpoint κ) (channel : Channel κ) :
    (lastState endpoint.start channel).pipeline =
      if Operation.start.clears endpoint channel then channel.pipeline.clear
      else channel.pipeline := by
  have hall : Ensures endpoint.start channel
      (fun _ last => last.pipeline =
        if Operation.start.clears endpoint channel then channel.pipeline.clear
        else channel.pipeline)
      (fun _ last => last.pipeline =
        if Operation.start.clears endpoint channel then channel.pipeline.clear
        else channel.pipeline) := by
    unfold start Operation.clears
    rw [ensures_bind, ensures_get]
    cases channel.lifecycle with
    | stopped =>
      dsimp only
      rw [Channel.ensures_transition]
      exact configureAndArm_pipeline endpoint _
    | running => rfl
    | starting => rfl
    | stopping => rfl
    | resetting => rfl
  exact hall.of_lastState

/-- Superpages have moved to the ready queue, if any, and were counted. -/
def MovesCounted (channel last : Channel κ) : Prop :=
  ∃ quotas moves, Advanced channel.pipeline quotas last.pipeline moves ∧
    channel.Counted { moves } last

lemma MovesCounted.of_same {last : Channel κ} (hstanding : last.standing = channel.standing)
    (hmetrics : last.journal.metrics = channel.journal.metrics) : MovesCounted channel last := by
  refine ⟨[], [], ?_, .of_same hmetrics⟩
  rw [Channel.pipeline_of_standing hstanding]
  exact Advanced.refl _

lemma MovesCounted.of_before {middle last : Channel κ}
    (hstanding : middle.standing = channel.standing)
    (hmetrics : middle.journal.metrics = channel.journal.metrics)
    (h : MovesCounted middle last) : MovesCounted channel last := by
  obtain ⟨quotas, moves, hadvanced, hcounted⟩ := h
  rw [Channel.pipeline_of_standing hstanding] at hadvanced
  exact ⟨quotas, moves, hadvanced, hcounted.of_before hmetrics⟩

lemma drain_counts (endpoint : Endpoint κ) (channel : Channel κ) :
    Ensures endpoint.drain channel (fun _ last => MovesCounted channel last)
      (fun _ last => MovesCounted channel last) := by
  apply ensures_drain
  apply ((keeps_readArrivals endpoint _ channel).and
    (endpoint.sameMetrics_routine.readArrivals _ channel)).mono
  · rintro answer read ⟨hstanding, hmetrics⟩ pipeline moves hadvanced
    exact .of_before hstanding hmetrics ⟨_, moves, hadvanced, .of_moves rfl⟩
  · rintro e read ⟨hstanding, hmetrics⟩
    exact .of_same hstanding hmetrics

lemma disarmAndDrain_counts (endpoint : Endpoint κ) (channel : Channel κ) :
    Ensures endpoint.disarmAndDrain channel (fun _ last => MovesCounted channel last)
      (fun _ last => MovesCounted channel last) := by
  have hroutine := endpoint.sameMetrics_routine
  have hwrites (channel : Channel κ) : Ensures (do
      endpoint.write (.setBufferReady false)
      endpoint.write .disableDataTaking) channel
    (fun _ last => last.standing = channel.standing ∧
      last.journal.metrics = channel.journal.metrics)
    (fun _ last => last.standing = channel.standing ∧
      last.journal.metrics = channel.journal.metrics) := by
    apply Ensures.and
    · exact ((keeps_write endpoint _).bind fun _ => keeps_write endpoint _) channel
    · exact (hroutine.bind (hroutine.write rfl) fun _ => hroutine.write rfl) channel
  unfold disarmAndDrain
  rw [← bind_assoc, ensures_bind]
  apply (hwrites channel).mono
  · rintro _ halted ⟨hstanding, hmetrics⟩
    rw [ensures_bind]
    apply (drain_counts endpoint halted).mono
    · intro moved last hlast
      exact hlast.of_before hstanding hmetrics
    · intro e last hlast
      exact hlast.of_before hstanding hmetrics
  · rintro e last ⟨hstanding, hmetrics⟩
    exact .of_same hstanding hmetrics

/-- A poll counts the violation that it fails with, and nothing else. -/
lemma pollArrivals_counts (endpoint : Endpoint κ) (links : List Link) (channel : Channel κ) :
    Ensures (endpoint.pollArrivals links) channel
      (fun _ last => last.journal.metrics = channel.journal.metrics)
      (fun e last => channel.Counted { violation? := e.violatedLink? } last) := by
  induction links generalizing channel with
  | nil => rfl
  | cons link links ih =>
    rw [pollArrivals, ensures_bind, ensures_access]
    constructor
    · intro hardwareCount card _
      dsimp only
      split
      · exact .of_violation rfl
      · rw [ensures_bind]
        apply (ih { channel with card }).mono
        · intro arrivals last hlast
          exact hlast
        · intro e last hlast
          exact hlast
    · intro fault card _
      exact .of_same rfl

lemma fill_counts (endpoint : Endpoint κ) (channel : Channel κ) :
    Ensures endpoint.fill channel (fun _ last => MovesCounted channel last)
      (fun e last => last.pipeline = channel.pipeline ∧
        channel.Counted { violation? := e.violatedLink? } last) := by
  unfold fill
  rw [ensures_bind, ensures_get]
  split
  · rw [ensures_discard]
    apply ensures_collect
    have hstanding := keeps_pollArrivals endpoint channel.pipeline.links channel
    apply (hstanding.and (pollArrivals_counts endpoint _ channel)).mono
    · rintro arrivals polled ⟨hstanding, hmetrics⟩ pipeline moves hadvanced
      exact .of_before hstanding hmetrics ⟨_, moves, hadvanced, .of_moves rfl⟩
    · rintro e last ⟨hstanding, hcounted⟩
      exact ⟨Channel.pipeline_of_standing hstanding, hcounted⟩
  · exact .of_same rfl rfl

lemma start_counts (hlevel : ResetLevel.check endpoint.parameters.family endpoint.startLevel
    endpoint.parameters.loopback = .ok ()) (channel : Channel κ) :
    channel.Counted { timed? := Operation.start.timed? endpoint channel }
      (lastState endpoint.start channel) := by
  have hall : Ensures endpoint.start channel
      (fun _ => channel.Counted { timed? := Operation.start.timed? endpoint channel })
      (fun _ => channel.Counted { timed? := Operation.start.timed? endpoint channel }) := by
    have hconfigure := endpoint.sameMetrics_routine.configureAndArm hlevel
    unfold start Operation.timed?
    rw [ensures_bind, ensures_get]
    cases channel.lifecycle with
    | stopped =>
      dsimp only
      rw [Channel.ensures_transition]
      apply (hconfigure _).mono
      · intro _ last hlast
        exact (Channel.Counted.of_same hlast).timed rfl
      · intro e last hlast
        exact (Channel.Counted.of_same hlast).timed rfl
    | running => exact .of_same rfl
    | starting => exact .of_same rfl
    | stopping => exact .of_same rfl
    | resetting => exact .of_same rfl
  exact hall.of_lastState

lemma stop_counts (endpoint : Endpoint κ) (channel : Channel κ) :
    ∃ quotas moves, let last := lastState endpoint.stop channel
      Advanced channel.pipeline quotas last.pipeline moves ∧
        channel.Counted { moves, timed? := Operation.stop.timed? endpoint channel } last := by
  have hall : Ensures endpoint.stop channel
      (fun _ last => ∃ quotas moves, Advanced channel.pipeline quotas last.pipeline moves ∧
        channel.Counted { moves, timed? := Operation.stop.timed? endpoint channel } last)
      (fun _ last => ∃ quotas moves, Advanced channel.pipeline quotas last.pipeline moves ∧
        channel.Counted { moves, timed? := Operation.stop.timed? endpoint channel } last) := by
    unfold stop Operation.timed?
    rw [ensures_bind, ensures_get]
    cases channel.lifecycle with
    | running =>
      dsimp only
      rw [Channel.ensures_transition]
      apply (disarmAndDrain_counts endpoint _).mono
      · rintro _ last ⟨quotas, moves, hadvanced, hcounted⟩
        exact ⟨quotas, moves, hadvanced, hcounted.timed rfl⟩
      · rintro e last ⟨quotas, moves, hadvanced, hcounted⟩
        exact ⟨quotas, moves, hadvanced, hcounted.timed rfl⟩
    | stopped => exact ⟨[], [], Advanced.refl _, .of_same rfl⟩
    | starting => exact ⟨[], [], Advanced.refl _, .of_same rfl⟩
    | stopping => exact ⟨[], [], Advanced.refl _, .of_same rfl⟩
    | resetting => exact ⟨[], [], Advanced.refl _, .of_same rfl⟩
  exact hall.of_lastState

lemma reset_counts (endpoint : Endpoint κ) (level : ResetLevel) (channel : Channel κ) :
    channel.Counted { timed? := (Operation.reset level).timed? endpoint channel }
      (lastState (endpoint.reset level) channel) := by
  have hall : Ensures (endpoint.reset level) channel
      (fun _ last =>
        channel.Counted { timed? := (Operation.reset level).timed? endpoint channel } last)
      (fun _ last =>
        channel.Counted { timed? := (Operation.reset level).timed? endpoint channel } last) := by
    by_cases hnothing : level = .nothing
    · have htimed : (Operation.reset level).timed? endpoint channel = none := by
        unfold Operation.timed?
        cases channel.lifecycle <;> simp [hnothing]
      rw [htimed, reset, if_neg (not_not_intro hnothing)]
      exact .of_same rfl
    · rw [reset, if_pos hnothing, ensures_bind, ensures_get]
      extract_lets state
      by_cases hstopped : state = .stopped
      · rw [if_pos hstopped, ensures_bind, ensures_ofExcept]
        constructor
        · intro _ hcheck
          have htimed : (Operation.reset level).timed? endpoint channel = some .reset := by
            unfold Operation.timed?
            change channel.lifecycle = .stopped at hstopped
            simp [hstopped, hcheck, hnothing, Except.isOk, Except.toBool]
          rw [Channel.ensures_transition, htimed]
          apply (endpoint.sameMetrics_routine.resetCard hcheck _).mono
          · intro _ last hlast
            exact (Channel.Counted.of_same hlast).timed rfl
          · intro e last hlast
            exact (Channel.Counted.of_same hlast).timed rfl
        · intro e hcheck
          have htimed : (Operation.reset level).timed? endpoint channel = none := by
            unfold Operation.timed?
            change channel.lifecycle = .stopped at hstopped
            simp [hstopped, hcheck, Except.isOk, Except.toBool]
          rw [htimed]
          exact .of_same rfl
      · have htimed : (Operation.reset level).timed? endpoint channel = none := by
          unfold Operation.timed?
          change channel.lifecycle ≠ .stopped at hstopped
          cases hlifecycle : channel.lifecycle <;> simp_all
        rw [if_neg hstopped, htimed]
        exact .of_same rfl
  exact hall.of_lastState

end Endpoint

namespace Operation

variable {endpoint : Endpoint (γ × SimulatedCard)} {operation : Operation}
  {channel last : Channel (γ × SimulatedCard)}

lemma newlyPushed_of_commands (h : last.card.2.commands = channel.card.2.commands) :
    newlyPushed channel last = [] := by
  have hnone : last.card.2.commands.toList = channel.card.2.commands.toList ++ [] := by
    rw [h, List.append_nil]
  rw [newlyPushed, newCommands_of_append hnone]
  rfl

lemma newlyPushed_eq_nil (h : endpoint.Simulated)
    (hpush : ∀ superpage, operation ≠ .push superpage) (channel : Channel (γ × SimulatedCard)) :
    newlyPushed channel (lastState (operation.run endpoint) channel) = [] := by
  obtain ⟨added, hadded, hkind⟩ := h.commands_of_reaches (operation.reaches endpoint channel)
  rw [newlyPushed, newCommands_of_append hadded, List.filterMap_eq_nil_iff]
  intro command hcommand
  cases command with
  | pushSuperpage =>
    obtain ⟨superpage, heq⟩ := eq_push_of_kinds (hkind _ hcommand)
    exact absurd heq (hpush superpage)
  | _ => rfl

lemma clears_eq_false (hstart : operation ≠ .start) :
    operation.clears endpoint channel = false := by
  cases operation with
  | start => exact absurd rfl hstart
  | _ => rfl

/-- Superpages have at most left the links for the ready queue. -/
lemma Reckons.of_advanced {quotas : List Nat} {moves : List (LinkId × Nat)}
    (hstart : operation ≠ .start)
    (hadvanced : Advanced channel.pipeline quotas last.pipeline moves)
    (hpushed : newlyPushed channel last = [])
    (hcounted : channel.Counted
      { moves
        violation? := operation.violation? endpoint channel
        timed? := operation.timed? endpoint channel } last) :
    ∃ events, operation.Reckons endpoint channel events last := by
  refine ⟨_, hcounted, hpushed.symm, ?_, rfl, rfl, ?_, ?_⟩
  · intro id
    cases operation with
    | start => exact absurd rfl hstart
    | _ => exact Link.lost_eq hadvanced.passed
  · intro _ id
    exact hadvanced.pendingOn
  · intro hclears
    rw [clears_eq_false hstart] at hclears
    cases hclears

lemma Reckons.of_links (hstart : operation ≠ .start)
    (hlinks : last.pipeline.links = channel.pipeline.links)
    (hpushed : newlyPushed channel last = [])
    (hcounted : channel.Counted
      { violation? := operation.violation? endpoint channel
        timed? := operation.timed? endpoint channel } last) :
    ∃ events, operation.Reckons endpoint channel events last := by
  refine ⟨_, hcounted, hpushed.symm, ?_, rfl, rfl, ?_, ?_⟩
  · intro id
    exact (moved_of_links (fun _ => hlinks) id).symm
  · intro _ id
    rw [Pipeline.pendingOn, hlinks]
    rfl
  · intro hclears
    rw [clears_eq_false hstart] at hclears
    cases hclears

lemma reckons_start (h : endpoint.Simulated)
    (hlevel : ResetLevel.check endpoint.parameters.family endpoint.startLevel
      endpoint.parameters.loopback = .ok ()) (channel : Channel (γ × SimulatedCard)) :
    ∃ events, Operation.start.Reckons endpoint channel events
      (lastState (Operation.start.run endpoint) channel) := by
  have hpipeline := endpoint.start_pipeline channel
  have hpushed : newlyPushed channel (lastState (Operation.start.run endpoint) channel) = [] :=
    newlyPushed_eq_nil h (by simp) channel
  refine ⟨_, endpoint.start_counts hlevel channel, hpushed.symm, fun _ => rfl, rfl, rfl, ?_, ?_⟩
  · intro hclears id
    rw [hclears, if_neg Bool.false_ne_true] at hpipeline
    exact congrArg (Pipeline.pendingOn id) hpipeline
  · intro hclears id
    rw [hclears, if_pos rfl] at hpipeline
    exact (congrArg (Pipeline.pendingOn id) hpipeline).trans (Pipeline.pendingOn_clear id _)

/-- A push that succeeds is logged and counted, one that fails is neither. -/
lemma reckons_push (h : endpoint.Simulated) (superpage : Superpage)
    (channel : Channel (γ × SimulatedCard)) :
    ∃ events, (Operation.push superpage).Reckons endpoint channel events
      (lastState ((Operation.push superpage).run endpoint) channel) := by
  have hall : Ensures (endpoint.push superpage) channel
      (fun _ last => ∃ events, (push superpage).Reckons endpoint channel events last)
      (fun _ last => ∃ events, (push superpage).Reckons endpoint channel events last) := by
    apply (endpoint.ensures_push superpage channel).mono
    · rintro _ last ⟨-, -, pages, busAddress, place, link, -, henqueued, hjournal, hperform⟩
      rcases h.perform_cases hperform with ⟨_, _, hreply, _⟩ | ⟨-, hcard⟩
      · cases hreply
      · have hlog : last.card.2.commands.toList =
            channel.card.2.commands.toList ++ [.pushSuperpage link.id pages busAddress] := by
          rw [hcard]
          exact channel.card.2.commands_after_write _
        have hpushed : newlyPushed channel last = [link.id] := by
          rw [newlyPushed, newCommands_of_append hlog]
          rfl
        refine ⟨_, .of_push hjournal, hpushed.symm, ?_, rfl, rfl, ?_, nofun⟩
        · intro id
          exact (movedOff_of_enqueued henqueued id).symm
        · intro _ id
          exact henqueued.pendingOn
    · rintro e last (rfl | ⟨pages, busAddress, link, -, fault, hlast, hperform⟩)
      · exact Reckons.of_links nofun rfl (newlyPushed_of_commands rfl) (.of_same rfl)
      · have hcommands : last.card.2.commands = channel.card.2.commands := by
          rcases h.perform_cases hperform with ⟨_, failNext, _, hcard⟩ | ⟨hreply, _⟩
          · rw [hcard]
          · cases hreply
        have hpipeline : last.pipeline.links = channel.pipeline.links := by
          rw [hlast]
        have hmetrics : last.journal.metrics = channel.journal.metrics := by
          rw [hlast]
        have hpushed : newlyPushed channel last = [] := newlyPushed_of_commands hcommands
        exact Reckons.of_links nofun hpipeline hpushed (.of_same hmetrics)
  exact hall.of_lastState

lemma reckons_fill (h : endpoint.Simulated) (channel : Channel (γ × SimulatedCard)) :
    ∃ events, Operation.fill.Reckons endpoint channel events
      (lastState (Operation.fill.run endpoint) channel) := by
  have hstart : Operation.fill ≠ .start := nofun
  have hpushed : newlyPushed channel (lastState (Operation.fill.run endpoint) channel) = [] :=
    newlyPushed_eq_nil h (by simp) channel
  rcases (endpoint.fill_counts channel).outcome with
    ⟨_, hfailure, quotas, moves, hadvanced, hcounted⟩ | ⟨e, hfailure, hpipeline, hcounted⟩
  · have hviolation : Operation.fill.violation? endpoint channel = none := by
      rw [violation?, hfailure]
      rfl
    apply Reckons.of_advanced hstart hadvanced hpushed
    rw [hviolation]
    exact hcounted
  · have hviolation : Operation.fill.violation? endpoint channel = e.violatedLink? := by
      rw [violation?, hfailure]
      rfl
    apply Reckons.of_links hstart (congrArg Pipeline.links hpipeline) hpushed
    rw [hviolation]
    exact hcounted

/-- An operation that neither moves nor counts anything. -/
lemma reckons_still (operation : Operation) (h : endpoint.Simulated)
    (hstart : operation ≠ .start)
    (hpush : ∀ superpage, operation ≠ .push superpage)
    (hviolation : operation.violation? endpoint channel = none)
    (htimed : operation.timed? endpoint channel = none)
    (hstill : Ensures (operation.run endpoint) channel
      (fun _ last => last.pipeline.links = channel.pipeline.links ∧
        last.journal.metrics = channel.journal.metrics)
      (fun _ last => last.pipeline.links = channel.pipeline.links ∧
        last.journal.metrics = channel.journal.metrics)) :
    ∃ events, operation.Reckons endpoint channel events
      (lastState (operation.run endpoint) channel) := by
  obtain ⟨hlinks, hmetrics⟩ := hstill.of_lastState
  apply Reckons.of_links hstart hlinks (newlyPushed_eq_nil h hpush channel)
  rw [hviolation, htimed]
  exact .of_same hmetrics

/-- Whatever the outcome of an operation, what it counts is what took place. -/
theorem reckons (h : endpoint.Simulated)
    (hlevel : ResetLevel.check endpoint.parameters.family endpoint.startLevel
      endpoint.parameters.loopback = .ok ()) (operation : Operation)
    (channel : Channel (γ × SimulatedCard)) :
    ∃ events, operation.Reckons endpoint channel events
      (lastState (operation.run endpoint) channel) := by
  have hroutine := endpoint.sameMetrics_routine
  cases operation with
  | start => exact reckons_start h hlevel channel
  | stop =>
    obtain ⟨quotas, moves, hadvanced, hcounted⟩ := endpoint.stop_counts channel
    exact Reckons.of_advanced nofun hadvanced (newlyPushed_eq_nil h (by simp) channel) hcounted
  | reset level =>
    have hkeeps := ((endpoint.keeps_reset level).comp Prod.snd channel).of_lastState
    exact Reckons.of_links nofun (congrArg Pipeline.links hkeeps)
      (newlyPushed_eq_nil h (by simp) channel) (endpoint.reset_counts level channel)
  | push superpage => exact reckons_push h superpage channel
  | fill => exact reckons_fill h channel
  | peek =>
    apply reckons_still .peek h nofun nofun rfl rfl
    apply (Channel.ensures_peek channel).mono
    · rintro superpage last ⟨-, rfl⟩
      exact ⟨rfl, rfl⟩
    · rintro e last rfl
      exact ⟨rfl, rfl⟩
  | pop =>
    apply reckons_still .pop h nofun nofun rfl rfl
    apply (Channel.ensures_pop channel).mono
    · rintro superpage last ⟨hpopped, hlast⟩
      refine ⟨hpopped.links, ?_⟩
      rw [hlast]
    · rintro e last rfl
      exact ⟨rfl, rfl⟩
  | droppedPackets =>
    apply reckons_still .droppedPackets h nofun nofun rfl rfl
    have hlinks := (endpoint.keeps_access .droppedPackets).comp
      fun standing => standing.2.links
    exact (hlinks channel).and (hroutine.access (hroutine.perform _ rfl) channel)
  | injectError =>
    apply reckons_still .injectError h nofun nofun rfl rfl
    have hlinks := endpoint.keeps_injectError.comp fun standing => standing.2.links
    exact (hlinks channel).and (hroutine.injectError channel)

end Operation

end DmaReadout
