import DmaReadout.Proofs.SimulatedCalls

/-!
# Runs on a simulated card

Between the calls, a test may tell the simulated card what to do. Such a run is a list of
events, each a call on the channel or a control of the card.
-/

namespace DmaReadout

variable {γ : Type}

inductive Event
  | call (call : Call)
  | control (control : CardControl)

/-- The completion counters of the card are not set by force. -/
def Event.Honest : Event → Prop
  | .control (.setArrived _ _) => False
  | _ => True

def Endpoint.afterEvent (endpoint : Endpoint (γ × SimulatedCard))
    (channel : Channel (γ × SimulatedCard)) : Event → Channel (γ × SimulatedCard)
  | .call call => endpoint.afterCall channel call
  | .control control =>
    { channel with card := (channel.card.1, channel.card.2.control control) }

def Endpoint.afterEvents (endpoint : Endpoint (γ × SimulatedCard))
    (channel : Channel (γ × SimulatedCard)) (events : List Event) : Channel (γ × SimulatedCard) :=
  events.foldl endpoint.afterEvent channel

namespace SimulatedCard

variable {card card' : SimulatedCard}

/-- How many descriptors the card has not completed, modulo 2^32. -/
def outstanding (card : SimulatedCard) (id : LinkId) : UInt32 :=
  card.pushed id - card.arrived id

/-- The card may have completed superpages, but none that it was not given. -/
structure Completed (card card' : SimulatedCard) : Prop where
  pushed : ∀ id, card'.pushed id = card.pushed id
  arrived : ∀ id, ∃ count ≤ card.outstanding id, card'.arrived id = card.arrived id + count

lemma arrived_add_outstanding (card : SimulatedCard) (id : LinkId) :
    card.arrived id + card.outstanding id = card.pushed id := by
  rw [outstanding, UInt32.add_comm, UInt32.sub_add_cancel]

lemma Completed.of_counters (h : card'.counters = card.counters) : Completed card card' where
  pushed id := by
    unfold SimulatedCard.pushed
    rw [h]
  arrived id := by
    refine ⟨0, UInt32.zero_le, ?_⟩
    unfold SimulatedCard.arrived
    rw [h, UInt32.add_zero]

lemma Looked.completed (h : Looked card card') : Completed card card' where
  pushed := h.pushed
  arrived id := by
    rcases h.arrived id with hsame | ⟨-, hpushed⟩
    · exact ⟨0, UInt32.zero_le, by rw [hsame, UInt32.add_zero]⟩
    · exact ⟨card.outstanding id, UInt32.le_refl _,
        hpushed.trans (card.arrived_add_outstanding id).symm⟩

/-- Every control but the one that sets a counter by force is honest. -/
theorem control_completed (card : SimulatedCard) {control : CardControl}
    (h : (Event.control control).Honest) : Completed card (card.control control) := by
  cases control with
  | setArrived link count => exact h.elim
  | setCompletion completion => exact .of_counters rfl
  | failNext message => exact .of_counters rfl
  | setDroppedPackets count => exact .of_counters rfl
  | clearCommands => exact .of_counters rfl
  | completeAll =>
    constructor
    · intro id
      unfold SimulatedCard.control updateCounters SimulatedCard.pushed
      rw [CounterTable.get_modifyAll]
      rfl
    · intro id
      refine ⟨card.outstanding id, UInt32.le_refl _, ?_⟩
      have hlast : (card.control .completeAll).arrived id = card.pushed id := by
        unfold SimulatedCard.control updateCounters SimulatedCard.arrived
        rw [CounterTable.get_modifyAll]
        · rfl
        · rfl
      rw [hlast, arrived_add_outstanding]
  | complete link count =>
    constructor
    · intro id
      simp only [SimulatedCard.control, updateCounters, SimulatedCard.pushed,
        CounterTable.get_modify]
      by_cases hid : link = id
      · rw [if_pos hid, hid]
      · rw [if_neg hid]
    · intro id
      simp only [SimulatedCard.control, updateCounters, SimulatedCard.arrived,
        CounterTable.get_modify]
      by_cases hid : link = id
      · subst hid
        rw [if_pos rfl]
        exact ⟨_, Std.min_le_right, rfl⟩
      · rw [if_neg hid]
        exact ⟨0, UInt32.zero_le, (UInt32.add_zero _).symm⟩

lemma pushed_after_push (card : SimulatedCard) (link id : LinkId) (pages : UInt32)
    (busAddress : UInt64) :
    (card.after (.write (.pushSuperpage link pages busAddress))).pushed id =
      if link = id then card.pushed id + 1 else card.pushed id := by
  simp only [after, obey, updateCounters, SimulatedCard.pushed, CounterTable.get_modify]
  by_cases hid : link = id
  · rw [if_pos hid, if_pos hid, hid]
  · rw [if_neg hid, if_neg hid]

lemma arrived_after_push (card : SimulatedCard) (link id : LinkId) (pages : UInt32)
    (busAddress : UInt64) :
    (card.after (.write (.pushSuperpage link pages busAddress))).arrived id =
      card.arrived id := by
  simp only [after, obey, updateCounters, SimulatedCard.arrived, CounterTable.get_modify]
  by_cases hid : link = id
  · rw [if_pos hid, hid]
  · rw [if_neg hid]

end SimulatedCard

lemma Endpoint.Simulated.during {endpoint : Endpoint (γ × SimulatedCard)}
    (h : endpoint.Simulated) (call : Call) : (endpoint.during call).Simulated := h

lemma Endpoint.afterEvent_map_id (endpoint : Endpoint (γ × SimulatedCard))
    (channel : Channel (γ × SimulatedCard)) (event : Event) :
    (endpoint.afterEvent channel event).pipeline.links.map Link.id =
      channel.pipeline.links.map Link.id := by
  cases event with
  | call call => exact (call.operation.update (endpoint.during call) channel).map_id
  | control control => rfl

/-- No run changes what is left of the queues once they are cleared. -/
lemma Endpoint.afterEvents_clear (endpoint : Endpoint (γ × SimulatedCard))
    (channel : Channel (γ × SimulatedCard)) (events : List Event) :
    (endpoint.afterEvents channel events).pipeline.clear = channel.pipeline.clear := by
  induction events generalizing channel with
  | nil => rfl
  | cons event events ih =>
    have hevent : (endpoint.afterEvent channel event).pipeline.clear = channel.pipeline.clear := by
      cases event with
      | call call => exact (call.operation.update (endpoint.during call) channel).clear_eq
      | control control => rfl
    exact (ih _).trans hevent

end DmaReadout
