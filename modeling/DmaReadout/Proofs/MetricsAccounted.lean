import DmaReadout.Proofs.CountedCalls
import DmaReadout.Proofs.Turns

/-!
# Metrics account for superpages and transitions

What the calls of a run have counted adds up to what took place in the run. Since the queues were
last cleared, the superpages that were pushed to a link and have not moved on are those that wait
there.
-/

namespace DmaReadout

open DmaReadout.Metric (present)

variable {κ γ : Type}

namespace Channel

/-- The total of a counter, if the channel has touched it. -/
def total? (counter : Counter) (channel : Channel κ) : Option Nat :=
  Metric.total counter channel.journal.metrics.toList

/-- The total of a counter; one that was not touched counts nothing. -/
def total (counter : Counter) (channel : Channel κ) : Nat :=
  (channel.total? counter).getD 0

end Channel

namespace Endpoint

/-- What a call adds to a counter, by what took place in it. -/
def due (endpoint : Endpoint (γ × SimulatedCard)) (counter : Counter)
    (channel : Channel (γ × SimulatedCard)) (call : Call) : Nat :=
  let next := endpoint.afterCall channel call
  match counter with
  | .pushed link => (newlyPushed channel next).count link
  | .ready link => call.operation.moved link channel next
  | .violations link =>
    (call.operation.violation? (endpoint.during call) channel).toList.count link
  | .transitions kind =>
    (call.operation.timed? (endpoint.during call) channel).toList.count kind

/-- The channel as it was after the last start of a run that cleared the queues, or else
`cleared`. -/
def lastCleared (endpoint : Endpoint κ) (cleared : Channel κ) :
    Channel κ → List (Turn κ) → Channel κ
  | _, [] => cleared
  | channel, .call call :: turns =>
    let next := endpoint.afterCall channel call
    if call.operation.clears (endpoint.during call) channel then
      endpoint.lastCleared next next turns
    else endpoint.lastCleared cleared next turns
  | channel, .change f :: turns =>
    endpoint.lastCleared cleared { channel with card := f channel.card } turns

end Endpoint

namespace Channel

/-- Every metric of the channel counts for something. -/
def Positive (channel : Channel κ) : Prop :=
  ∀ metric ∈ channel.journal.metrics.toList, 0 < metric.amount

def sum (counter : Counter) (channel : Channel κ) : Nat :=
  Metric.sum counter channel.journal.metrics.toList

lemma Positive.total?_eq {channel : Channel κ} (h : channel.Positive) (counter : Counter) :
    channel.total? counter = present (channel.sum counter) :=
  Metric.total_eq h

lemma Positive.total_eq {channel : Channel κ} (h : channel.Positive) (counter : Counter) :
    channel.total counter = channel.sum counter := by
  rw [total, h.total?_eq, present]
  split
  · exact ‹channel.sum counter = 0›.symm
  · rfl

/-- What was pushed to a link since `cleared` has moved on since then, or waits there. -/
structure Reconciled (cleared channel : Channel κ) : Prop where
  positive : channel.Positive
  clearedPositive : cleared.Positive
  balance : ∀ id, channel.sum (.pushed id) + cleared.sum (.ready id) =
    cleared.sum (.pushed id) + channel.sum (.ready id) + channel.pipeline.pendingOn id

variable {channel last : Channel κ} {events : CallEvents}

lemma Counted.sum_eq (h : channel.Counted events last) (counter : Counter) :
    last.sum counter = channel.sum counter + events.number counter := by
  rw [sum, h, Metric.sum_append, events.sum_metrics]
  rfl

lemma Counted.positive (h : channel.Counted events last) (hpositive : channel.Positive) :
    last.Positive := by
  intro metric hmetric
  rw [h, List.mem_append] at hmetric
  rcases hmetric with hearlier | hnew
  · exact hpositive metric hearlier
  · exact CallEvents.amount_pos hnew

end Channel

namespace Endpoint

variable {endpoint : Endpoint (γ × SimulatedCard)}
  {cleared channel : Channel (γ × SimulatedCard)}

section Call

variable (h : endpoint.Simulated)
  (hlevel : ResetLevel.check endpoint.parameters.family endpoint.startLevel
    endpoint.parameters.loopback = .ok ())

include h hlevel

lemma sum_afterCall (counter : Counter) (channel : Channel (γ × SimulatedCard)) (call : Call) :
    (endpoint.afterCall channel call).sum counter =
      channel.sum counter + endpoint.due counter channel call := by
  obtain ⟨events, hreckons⟩ := call.operation.reckons (h.during call) hlevel channel
  rw [afterCall, hreckons.counted.sum_eq]
  congr 1
  cases counter with
  | pushed link => exact congrArg (List.count link) hreckons.pushed
  | ready link => exact hreckons.moved link
  | violations link => exact congrArg (fun link? => link?.toList.count link) hreckons.violation
  | transitions kind => exact congrArg (fun kind? => kind?.toList.count kind) hreckons.timed

theorem sum_afterTurns (counter : Counter) (channel : Channel (γ × SimulatedCard))
    (turns : List (Turn (γ × SimulatedCard))) :
    (endpoint.afterTurns channel turns).sum counter =
      channel.sum counter + endpoint.sumCalls (endpoint.due counter) channel turns := by
  induction turns generalizing channel with
  | nil => rfl
  | cons turn turns ih =>
    cases turn with
    | call call =>
      rw [sumCalls, ← Nat.add_assoc, ← sum_afterCall h hlevel]
      exact ih _
    | change f => exact ih _

/-- A call keeps the balance, or begins a new one where it clears the queues. -/
lemma reconciled_afterCall (hchannel : cleared.Reconciled channel) (call : Call) :
    let next := endpoint.afterCall channel call
    if call.operation.clears (endpoint.during call) channel then next.Reconciled next
    else cleared.Reconciled next := by
  intro next
  obtain ⟨events, hreckons⟩ := call.operation.reckons (h.during call) hlevel channel
  have hpositive : next.Positive := hreckons.counted.positive hchannel.positive
  split
  · refine ⟨hpositive, hpositive, fun id => ?_⟩
    have hpending : next.pipeline.pendingOn id = 0 := hreckons.cleared ‹_› id
    rw [hpending, Nat.add_zero]
  · refine ⟨hpositive, hchannel.clearedPositive, fun id => ?_⟩
    have hpushed : next.sum (.pushed id) = channel.sum (.pushed id) + events.pushed.count id :=
      hreckons.counted.sum_eq (.pushed id)
    have hready : next.sum (.ready id) = channel.sum (.ready id) + Link.lost id events.moves :=
      hreckons.counted.sum_eq (.ready id)
    have hpending : next.pipeline.pendingOn id + Link.lost id events.moves =
        channel.pipeline.pendingOn id + events.pushed.count id :=
      hreckons.pending (Bool.eq_false_iff.2 ‹_›) id
    have hbalance := hchannel.balance id
    omega

theorem reconciled_afterTurns (hchannel : cleared.Reconciled channel)
    (turns : List (Turn (γ × SimulatedCard))) :
    (endpoint.lastCleared cleared channel turns).Reconciled
      (endpoint.afterTurns channel turns) := by
  induction turns generalizing cleared channel with
  | nil => exact hchannel
  | cons turn turns ih =>
    cases turn with
    | call call =>
      have hnext := reconciled_afterCall h hlevel hchannel call
      rw [lastCleared]
      split
      · rw [if_pos ‹_›] at hnext
        exact ih hnext
      · rw [if_neg ‹_›] at hnext
        exact ih hnext
    | change f =>
      have hchanged : cleared.Reconciled { channel with card := f channel.card } :=
        ⟨hchannel.positive, hchannel.clearedPositive, hchannel.balance⟩
      exact ih hchanged

end Call

lemma reconciled_of_openChannel {card : γ × SimulatedCard}
    (hopen : endpoint.openChannel card = .ok channel) :
    channel.Reconciled channel ∧ ∀ counter, channel.sum counter = 0 := by
  obtain ⟨links, hopened⟩ := exists_opened hopen
  have hmetrics := (endpoint.fresh_of_openChannel hopen).2
  have hpositive : channel.Positive := by
    intro metric hmetric
    rw [hmetrics] at hmetric
    cases hmetric
  refine ⟨⟨hpositive, hpositive, fun id => ?_⟩, fun counter => ?_⟩
  · have hempty : waiting channel.pipeline.links = [] := by
      apply waiting_eq_nil
      intro link hlink
      rw [hopened.pipeline] at hlink
      obtain ⟨id, -, rfl⟩ := List.mem_map.1 hlink
      rfl
    rw [Pipeline.pendingOn, hempty]
    rfl
  · rw [Channel.sum, hmetrics]
    rfl

lemma nodup_afterTurns (endpoint : Endpoint κ) {channel : Channel κ}
    (hids : (channel.pipeline.links.map Link.id).Nodup) (turns : List (Turn κ)) :
    ((endpoint.afterTurns channel turns).pipeline.links.map Link.id).Nodup := by
  refine afterTurns_induction (P := fun channel => (channel.pipeline.links.map Link.id).Nodup)
    (fun turn _ channel hids => ?_) hids
  cases turn with
  | call call =>
    have hupdate := call.operation.update (endpoint.during call) channel
    exact hupdate.map_id ▸ hids
  | change f => exact hids

end Endpoint

/-- Whatever fails, and whatever others do to the card between the calls: every counter has the
total of what took place in the calls, and none if nothing did. Since the queues were last cleared,
the superpages that were pushed to a link are those that have moved to the ready queue and those
that wait on the link. Closing counts nothing. -/
theorem metrics_accounted (endpoint : Endpoint (γ × SimulatedCard))
    (hsimulated : endpoint.Simulated) (card : γ × SimulatedCard)
    (channel : Channel (γ × SimulatedCard)) (hopen : endpoint.openChannel card = .ok channel)
    (turns : List (Turn (γ × SimulatedCard))) :
    let last := endpoint.afterTurns channel turns
    let cleared := endpoint.lastCleared channel channel turns
    (∀ counter, last.total? counter =
        present (endpoint.sumCalls (endpoint.due counter) channel turns)) ∧
      (∀ link ∈ last.pipeline.links,
        last.total (.pushed link.id) + cleared.total (.ready link.id) =
          cleared.total (.pushed link.id) + last.total (.ready link.id) + link.pending) ∧
      (endpoint.close last).journal.metrics = last.journal.metrics := by
  intro last cleared
  have hlevel := Endpoint.check_startLevel hopen
  obtain ⟨links, hopened⟩ := exists_opened hopen
  obtain ⟨hbegun, hzero⟩ := Endpoint.reconciled_of_openChannel hopen
  have hreconciled : cleared.Reconciled last :=
    Endpoint.reconciled_afterTurns hsimulated hlevel hbegun turns
  refine ⟨fun counter => ?_, fun link hlink => ?_, ?_⟩
  · rw [hreconciled.positive.total?_eq, Endpoint.sum_afterTurns hsimulated hlevel, hzero,
      Nat.zero_add]
  · have hpending : last.pipeline.pendingOn link.id = link.pending :=
      Pipeline.pendingOn_id hlink (endpoint.nodup_afterTurns hopened.nodup turns)
    rw [hreconciled.positive.total_eq, hreconciled.positive.total_eq,
      hreconciled.clearedPositive.total_eq, hreconciled.clearedPositive.total_eq, ← hpending]
    exact hreconciled.balance link.id
  · exact endpoint.close_sameMetrics last

/-- One superpage of three has moved when the protocol is found violated, and the stop moves the
others. The next start fails once it has cleared the queues, and the one after it succeeds. Of the
three superpages that the first link was given, two were before the queues were last cleared, and
the third waits. -/
theorem metrics_accounted_two_sessions :
    let script : FaultScript := [⟨.setBufferReady, 2, 1, .because "arm"⟩]
    let call operation := Turn.call ⟨operation, twoLinks.buffer⟩
    let push := call (.push { offset := 0, size := 0x2000 })
    let turns : List (Turn ScriptedCard) :=
      [.control (.setCompletion .manual), call .start, push, push, push,
        .control (.complete ⟨0⟩ 1), call .fill, .control (.setArrived ⟨1⟩ 5), call .fill,
        call .stop, call (.reset .nothing), call (.reset .internal), call .start, call .start, push]
    let channel := twoLinksChannel (script, {})
    let last := twoLinks.afterTurns channel turns
    let cleared := twoLinks.lastCleared channel channel turns
    twoLinks.Simulated ∧ twoLinks.openChannel (script, {}) = .ok channel ∧
      last.total? (.pushed ⟨0⟩) = some 3 ∧ last.total? (.ready ⟨0⟩) = some 2 ∧
      last.total? (.violations ⟨0⟩) = none ∧ last.total? (.violations ⟨1⟩) = some 1 ∧
      last.total? (.transitions .start) = some 3 ∧ last.total? (.transitions .reset) = some 1 ∧
      (cleared.total (.pushed ⟨0⟩), cleared.total (.ready ⟨0⟩)) = (2, 2) ∧
      (∀ link ∈ last.pipeline.links,
        last.total (.pushed link.id) + cleared.total (.ready link.id) =
          cleared.total (.pushed link.id) + last.total (.ready link.id) + link.pending) ∧
      last.pipeline.links.map Link.pending = [1, 0] ∧
      (twoLinks.close last).journal.metrics = last.journal.metrics := by
  intro script call push turns channel
  have hsimulated : twoLinks.Simulated := ⟨_, rfl⟩
  have hopen := openChannel_twoLinks (script, {})
  obtain ⟨htotals, hbalance, hclosed⟩ := metrics_accounted twoLinks hsimulated _ channel hopen turns
  have htotal {counter : Counter} {count? : Option Nat}
      (h : present (twoLinks.sumCalls (twoLinks.due counter) channel turns) = count?) :
      (twoLinks.afterTurns channel turns).total? counter = count? :=
    (htotals counter).trans h
  -- A scripted card is a pair, which is all that there is to see: the run is not to be unfolded.
  refine ⟨hsimulated, hopen, htotal ?_, htotal ?_, htotal ?_, htotal ?_, htotal ?_, htotal ?_, ?_,
    by with_reducible exact hbalance, ?_, by with_reducible exact hclosed⟩
  all_goals decide +kernel

end DmaReadout
