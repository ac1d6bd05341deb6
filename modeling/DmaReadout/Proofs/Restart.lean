import DmaReadout.Proofs.Lockstep
import DmaReadout.Proofs.RunningConfiguration

/-!
# A restart forgets

A start that succeeds clears the queues, resets the counters of the card and sees to the debug
mode where that is asked for. So two channels with different pasts, once started, go on in
lockstep: what is left of the past is never asked for.
-/

namespace DmaReadout

open Channel (Alike)

variable {γ : Type}

namespace SimulatedCard

/-- The cards answer alike from now on, where the debug mode may be asked for or not. -/
structure Twins (asked : Bool) (card card' : SimulatedCard) : Prop where
  completion : card'.completion = card.completion
  counters : card'.counters = card.counters
  droppedPackets : card'.droppedPackets = card.droppedPackets
  failNext : card'.failNext = card.failNext
  debugMode : asked = true → card'.debugMode = card.debugMode

/-- The logs of the cards have grown by the same commands since they were as given. -/
def GrownAlike (log log' : List Command) (card card' : SimulatedCard) : Prop :=
  ∃ added, card.commands.toList = log ++ added ∧ card'.commands.toList = log' ++ added

variable {asked : Bool} {card card' : SimulatedCard}

namespace Twins

lemma updateCounters (h : Twins asked card card') (f : CounterTable → CounterTable) :
    Twins asked (card.updateCounters f) (card'.updateCounters f) :=
  ⟨h.completion, congrArg f h.counters, h.droppedPackets, h.failNext, h.debugMode⟩

lemma obey (h : Twins asked card card') (command : Command) :
    Twins asked (card.obey command) (card'.obey command) := by
  cases command with
  | pushSuperpage link pages busAddress => exact h.updateCounters _
  | resetCard => exact ⟨h.completion, rfl, h.droppedPackets, h.failNext, h.debugMode⟩
  | setDebugMode enabled =>
    exact ⟨h.completion, h.counters, h.droppedPackets, h.failNext, fun _ => rfl⟩
  | _ => exact ⟨h.completion, h.counters, h.droppedPackets, h.failNext, h.debugMode⟩

lemma after (h : Twins asked card card') (access : Access) :
    Twins asked (card.after access) (card'.after access) := by
  cases access with
  | write command =>
    have hobeyed := h.obey command
    exact ⟨hobeyed.completion, hobeyed.counters, hobeyed.droppedPackets, hobeyed.failNext,
      hobeyed.debugMode⟩
  | superpageCount link =>
    unfold SimulatedCard.after
    dsimp only
    rw [h.completion]
    cases card.completion with
    | immediate => exact h.updateCounters _
    | manual => exact h
  | debugMode => exact h
  | droppedPackets => exact h

lemma reply_eq (h : Twins asked card card') {access : Access}
    (hasked : access = .debugMode → asked = true) : card'.reply access = card.reply access := by
  cases access with
  | write command => rfl
  | superpageCount link =>
    unfold reply SimulatedCard.arrived
    rw [h.counters]
  | debugMode => exact h.debugMode (hasked rfl)
  | droppedPackets => exact h.droppedPackets

lemma control (h : Twins asked card card') (control : CardControl) :
    Twins asked (card.control control) (card'.control control) := by
  cases control with
  | complete link count => exact h.updateCounters _
  | completeAll => exact h.updateCounters _
  | setArrived link count => exact h.updateCounters _
  | setCompletion completion =>
    exact ⟨rfl, h.counters, h.droppedPackets, h.failNext, h.debugMode⟩
  | failNext message =>
    exact ⟨h.completion, h.counters, h.droppedPackets, rfl, h.debugMode⟩
  | setDroppedPackets count => exact ⟨h.completion, h.counters, rfl, h.failNext, h.debugMode⟩
  | clearCommands => exact ⟨h.completion, h.counters, h.droppedPackets, h.failNext, h.debugMode⟩

end Twins

lemma GrownAlike.after {log log' : List Command} (h : GrownAlike log log' card card')
    (access : Access) : GrownAlike log log' (card.after access) (card'.after access) := by
  obtain ⟨added, hlog, hlog'⟩ := h
  refine ⟨added ++ access.logged, ?_, ?_⟩
  · rw [commands_after, hlog, List.append_assoc]
  · rw [commands_after, hlog', List.append_assoc]

end SimulatedCard

open SimulatedCard (Twins GrownAlike)

namespace Endpoint

variable {endpoint : Endpoint (γ × SimulatedCard)}

/-- What refuses accesses stands alike, and the cards behind it are twins. -/
def Twinned (endpoint : Endpoint (γ × SimulatedCard)) (card card' : γ × SimulatedCard) : Prop :=
  card'.1 = card.1 ∧ Twins endpoint.needsDebugMode card.2 card'.2

/-- Twins stay twins, and log the same commands. -/
theorem Simulated.matches_twins (h : endpoint.Simulated) (log log' : List Command) :
    endpoint.Matches
      (fun card card' => endpoint.Twinned card card' ∧ GrownAlike log log' card.2 card'.2)
      endpoint.registers := by
  obtain ⟨refuse, hregisters⟩ := h
  rintro access hmakes card card' ⟨⟨hguard, htwins⟩, hgrown⟩ reply next hperform
  simp only [hregisters, SimulatedCard.guarded_perform_iff, hguard, htwins.failNext] at hperform ⊢
  rcases hperform with ⟨fault, hrefuse, hreply, hnext⟩ |
    ⟨cause, hrefuse, hpending, hreply, hnext⟩ | ⟨hrefuse, hpending, hreply, hnext⟩
  · refine ⟨(next.1, card'.2), .inl ⟨fault, hrefuse, hreply, rfl⟩, ⟨rfl, ?_⟩, ?_⟩
    · rwa [hnext]
    · rwa [hnext]
  · refine ⟨(next.1, { card'.2 with failNext := none }),
      .inr (.inl ⟨cause, hrefuse, hpending, hreply, rfl⟩), ⟨rfl, ?_⟩, ?_⟩
    · rw [hnext]
      exact ⟨htwins.completion, htwins.counters, htwins.droppedPackets, rfl, htwins.debugMode⟩
    · rw [hnext]
      exact hgrown
  · have hafter := htwins.after access
    refine ⟨(next.1, card'.2.after access), .inr (.inr ⟨hrefuse, hpending, ?_, rfl⟩), ⟨rfl, ?_⟩,
      ?_⟩
    · rw [hreply, hnext, hafter.reply_eq hmakes]
    · rwa [hnext]
    · rw [hnext]
      exact hgrown.after access

variable {channel channel' : Channel (γ × SimulatedCard)}

/-- No call tells the channels apart, and both cards log the same. -/
theorem Simulated.call_twins (h : endpoint.Simulated)
    (halike : Alike endpoint.Twinned False channel channel') (call : Call) :
    answer (call.operation.run (endpoint.during call)) channel' =
        answer (call.operation.run (endpoint.during call)) channel ∧
      Alike endpoint.Twinned False (endpoint.afterCall channel call)
        (endpoint.afterCall channel' call) ∧
      newCommands channel' (endpoint.afterCall channel' call) =
        newCommands channel (endpoint.afterCall channel call) := by
  have hmatches := (h.during call).matches_twins channel.card.2.commands.toList
    channel'.card.2.commands.toList
  have hlockstep : Lockstep (Alike _ False) (call.operation.run (endpoint.during call))
      (call.operation.run (endpoint.during call)) := hmatches.run call.operation
  have hstart : Alike (fun card card' => (endpoint.during call).Twinned card card' ∧
      GrownAlike channel.card.2.commands.toList channel'.card.2.commands.toList card.2 card'.2)
      False channel channel' :=
    ⟨halike.lifecycle, halike.pipeline,
      ⟨halike.card, [], (List.append_nil _).symm, (List.append_nil _).symm⟩, halike.trace⟩
  have hlast := hlockstep.lastState hstart
  obtain ⟨added, hadded, hadded'⟩ := hlast.card.2
  refine ⟨hlockstep.answer_eq hstart, ?_, ?_⟩
  · exact ⟨hlast.lifecycle, hlast.pipeline, hlast.card.1, hlast.trace⟩
  · exact (newCommands_of_append hadded').trans (newCommands_of_append hadded).symm

theorem Simulated.events_twins (h : endpoint.Simulated)
    (halike : Alike endpoint.Twinned False channel channel') (events : List Event) :
    Alike endpoint.Twinned False (endpoint.afterEvents channel events)
        (endpoint.afterEvents channel' events) ∧
      endpoint.obeyed channel' events = endpoint.obeyed channel events := by
  induction events generalizing channel channel' with
  | nil => exact ⟨halike, rfl⟩
  | cons event events ih =>
    have hevent : Alike endpoint.Twinned False (endpoint.afterEvent channel event)
          (endpoint.afterEvent channel' event) ∧
        newCommands channel' (endpoint.afterEvent channel' event) =
          newCommands channel (endpoint.afterEvent channel event) := by
      cases event with
      | call call => exact (h.call_twins halike call).2
      | control control =>
        rw [newCommands_control, newCommands_control]
        exact ⟨⟨halike.lifecycle, halike.pipeline,
          ⟨halike.card.1, halike.card.2.control control⟩, halike.trace⟩, rfl⟩
    obtain ⟨hlast, hobeyed⟩ := ih hevent.1
    refine ⟨hlast, ?_⟩
    rw [obeyed, obeyed, hevent.2, hobeyed]

lemma Simulated.beginDataTaking_awake (h : endpoint.Simulated) (source : DataSource) :
    Ensures (endpoint.beginDataTaking source) channel
      (fun _ last => last.card.2.failNext = none) (fun _ _ => True) := by
  unfold beginDataTaking
  rw [ensures_bind]
  apply (h.access_awake _).mono
  · intro _ halted hawake
    by_cases hexternal : source.isExternal = true
    · rw [if_pos hexternal]
      exact h.access_awake _
    · rw [if_neg hexternal]
      exact hawake
  · intro e last _
    trivial

lemma Simulated.arm_awake (h : endpoint.Simulated) (source : DataSource) :
    Ensures (endpoint.arm source) channel (fun _ last => last.card.2.failNext = none)
      (fun _ _ => True) := by
  unfold arm
  apply Ensures.skip
  intro _ armed
  rw [ensures_bind, ensures_tryCatch]
  apply (h.beginDataTaking_awake source).mono
  · intro _ begun hbegun
    exact hbegun
  · intro e failed _
    apply Ensures.skip
    intro _ _
    trivial

lemma Simulated.configureAndArm_awake (h : endpoint.Simulated) :
    Ensures endpoint.configureAndArm channel (fun _ last => last.card.2.failNext = none)
      (fun _ _ => True) := by
  rw [configureAndArm_eq]
  apply Ensures.skip
  intro source channel
  apply Ensures.skip
  intro _ channel
  apply Ensures.skip
  intro _ channel
  exact h.arm_awake source

/-- What a start makes of a channel. Nothing else of the card can be asked for. -/
structure Renewed (endpoint : Endpoint (γ × SimulatedCard))
    (before after : Channel (γ × SimulatedCard)) : Prop where
  running : after.lifecycle = .running
  pipeline : after.pipeline = before.pipeline.clear
  completion : after.card.2.completion = before.card.2.completion
  counters : after.card.2.counters = {}
  droppedPackets : after.card.2.droppedPackets = before.card.2.droppedPackets
  failNext : after.card.2.failNext = none
  debugMode : endpoint.needsDebugMode = true → after.card.2.debugMode = true

theorem Simulated.start_renews (h : endpoint.Simulated) (hstopped : channel.lifecycle = .stopped)
    (hstart : failure? endpoint.start channel = none) :
    Renewed endpoint channel (lastState endpoint.start channel) := by
  have hrenews : Ensures endpoint.start channel (fun _ last => Renewed endpoint channel last)
      (fun _ _ => True) := by
    unfold start
    rw [ensures_bind, ensures_get, hstopped]
    dsimp only
    rw [Channel.ensures_transition]
    apply ((configureAndArm_clears endpoint _).and
      ((configureAndArm_refusable endpoint _).and (h.configureAndArm_blank.and
        (h.configureAndArm_configures.and h.configureAndArm_awake)))).mono
    · rintro _ last ⟨hpipeline, hreaches, hblank, ⟨source, hconfigured⟩, hawake⟩
      have hkept := h.of_reaches (P := fun card =>
          card.completion = channel.card.2.completion ∧
            card.droppedPackets = channel.card.2.droppedPackets) hreaches
        (fun card access _ hcard => ⟨(card.after_frame access).1.trans hcard.1,
          (card.after_frame access).2.1.trans hcard.2⟩)
        (fun card _ hcard => hcard) ⟨rfl, rfl⟩
      refine ⟨rfl, hpipeline, hkept.1, hblank, hkept.2, hawake, fun hneeds => ?_⟩
      unfold needsDebugMode at hneeds
      simp only [Bool.and_eq_true, decide_eq_true_eq] at hneeds
      exact hconfigured.debugMode hneeds.1 hneeds.2
    · intro e last _
      trivial
  rcases hrenews.outcome with ⟨_, -, hrenewed⟩ | ⟨e, hfailure, -⟩
  · exact hrenewed
  · rw [hstart] at hfailure
    cases hfailure

end Endpoint

/-- The user sees the same of both channels, and gets the same from every call. -/
structure Indistinguishable (endpoint : Endpoint (γ × SimulatedCard))
    (channel channel' : Channel (γ × SimulatedCard)) : Prop where
  lifecycle : channel'.lifecycle = channel.lifecycle
  pipeline : channel'.pipeline = channel.pipeline
  pushed : ∀ link, channel'.card.2.pushed link = channel.card.2.pushed link
  arrived : ∀ link, channel'.card.2.arrived link = channel.card.2.arrived link
  answer_eq : ∀ call : Call,
    answer (call.operation.run (endpoint.during call)) channel' =
      answer (call.operation.run (endpoint.during call)) channel

lemma Channel.Alike.indistinguishable {endpoint : Endpoint (γ × SimulatedCard)}
    {channel channel' : Channel (γ × SimulatedCard)}
    (h : Alike endpoint.Twinned False channel channel') (hsimulated : endpoint.Simulated) :
    Indistinguishable endpoint channel channel' where
  lifecycle := h.lifecycle
  pipeline := h.pipeline
  pushed link := by
    unfold SimulatedCard.pushed
    rw [h.card.2.counters]
  arrived link := by
    unfold SimulatedCard.arrived
    rw [h.card.2.counters]
  answer_eq call := (hsimulated.call_twins h call).1

/-- Two channels on the same parameters were stopped after any two histories, on cards that
complete alike and have dropped as many packets. Once both were started, no run tells them
apart: not by what its calls answer, by the queues, by what the cards count or by what they log.
Counts that were kept from an earlier poll would not tell them apart either, for no fill depends on
them (`Endpoint.exists_collectInto`). -/
theorem restart_forgets (endpoint : Endpoint (γ × SimulatedCard))
    (hsimulated : endpoint.Simulated) {card card' : γ × SimulatedCard}
    {opened opened' : Channel (γ × SimulatedCard)}
    (hopen : endpoint.openChannel card = .ok opened)
    (hopen' : endpoint.openChannel card' = .ok opened') (history history' : List Event) :
    let before := endpoint.afterEvents opened history
    let before' := endpoint.afterEvents opened' history'
    let started := lastState endpoint.start before
    let started' := lastState endpoint.start before'
    before.lifecycle = .stopped → before'.lifecycle = .stopped →
    before'.card.2.completion = before.card.2.completion →
    before'.card.2.droppedPackets = before.card.2.droppedPackets →
    failure? endpoint.start before = none → failure? endpoint.start before' = none →
    started'.card.1 = started.card.1 →
    ∀ events, Indistinguishable endpoint (endpoint.afterEvents started events)
        (endpoint.afterEvents started' events) ∧
      endpoint.obeyed started' events = endpoint.obeyed started events := by
  intro before before' started started' hstopped hstopped' hcompletion hdropped hstart hstart'
    hguard events
  obtain ⟨links, hopened⟩ := exists_opened hopen
  obtain ⟨links', hopened'⟩ := exists_opened hopen'
  have hlinks : links' = links := Except.ok.inj (hopened'.valid.symm.trans hopened.valid)
  have hpipelines : opened'.pipeline = opened.pipeline := by
    rw [hopened.pipeline, hopened'.pipeline, hlinks]
  have hrenewed : endpoint.Renewed before started := hsimulated.start_renews hstopped hstart
  have hrenewed' : endpoint.Renewed before' started' := hsimulated.start_renews hstopped' hstart'
  have hclear : before'.pipeline.clear = before.pipeline.clear := by
    rw [Endpoint.afterEvents_clear, Endpoint.afterEvents_clear, hpipelines]
  have htwins : SimulatedCard.Twins endpoint.needsDebugMode started.card.2 started'.card.2 := by
    refine ⟨?_, ?_, ?_, ?_, fun hneeds => ?_⟩
    · rw [hrenewed.completion, hrenewed'.completion, hcompletion]
    · rw [hrenewed.counters, hrenewed'.counters]
    · rw [hrenewed.droppedPackets, hrenewed'.droppedPackets, hdropped]
    · rw [hrenewed.failNext, hrenewed'.failNext]
    · rw [hrenewed.debugMode hneeds, hrenewed'.debugMode hneeds]
  have halike : Alike endpoint.Twinned False started started' :=
    ⟨hrenewed'.running.trans hrenewed.running.symm,
      hrenewed'.pipeline.trans (hclear.trans hrenewed.pipeline.symm), ⟨hguard, htwins⟩, nofun⟩
  obtain ⟨hlast, hobeyed⟩ := hsimulated.events_twins halike events
  exact ⟨hlast.indistinguishable hsimulated, hobeyed⟩

/-- A card on which nothing ever happened; its script has nothing left to refuse. -/
def freshCard : ScriptedCard :=
  ([⟨.setBufferReady, 0, 0, .because "disarm"⟩], { completion := .manual })

/-- A card left in debug mode, which will refuse to be disarmed once. -/
def usedCard : ScriptedCard :=
  ([⟨.setBufferReady, 1, 1, .because "disarm"⟩], { completion := .manual, debugMode := true })

/-- The stop fails and leaves a superpage on its link, whose counter then is set by force. -/
def usedHistory : List Event :=
  let call operation := Event.call ⟨operation, twoLinks.buffer⟩
  [call .start, call (.push ⟨0, 8192, 0, false, 0⟩), call .stop, .control (.setArrived ⟨0⟩ 7)]

/-- A superpage is pushed, completed and polled. -/
def restartRun : List Event :=
  let call operation := Event.call ⟨operation, twoLinks.buffer⟩
  [call (.push ⟨8192, 8192, 0, false, 5⟩), .control .completeAll, call .fill]

theorem restart_forgets_failed_stop :
    let before := twoLinks.afterEvents (twoLinksChannel freshCard) []
    let before' := twoLinks.afterEvents (twoLinksChannel usedCard) usedHistory
    let last := twoLinks.afterEvents (lastState twoLinks.start before) restartRun
    let last' := twoLinks.afterEvents (lastState twoLinks.start before') restartRun
    before'.lifecycle = .stopped ∧ before'.pipeline.slots = 3 ∧
      before'.card.2.arrived ⟨0⟩ = 7 ∧
      last.pipeline.ready.length = 1 ∧
      Indistinguishable twoLinks last last' := by
  intro before before' last last'
  have hsimulated : twoLinks.Simulated := ⟨_, rfl⟩
  have hstopped' : before'.lifecycle = .stopped := by decide +kernel
  have hforgets := (restart_forgets twoLinks hsimulated (openChannel_twoLinks freshCard)
    (openChannel_twoLinks usedCard) [] usedHistory rfl hstopped' (by decide +kernel)
    (by decide +kernel) (by decide +kernel) (by decide +kernel) (by decide +kernel) restartRun).1
  exact ⟨hstopped', by decide +kernel, by decide +kernel, by decide +kernel, hforgets⟩

end DmaReadout
