import DmaReadout.Proofs.CardSettings

/-!
# Safe descriptors

A descriptor tells the card where in the memory of the host it may write. Each one that a card
is handed comes from a push that succeeded on a running channel, whose buffer is armed, and
spans the superpage of that push: all of it, within the buffer, and nothing else.
-/

namespace DmaReadout

open Access.Kind (resetting preparing gating)
open Pipeline (Enqueued)

variable {γ κ : Type}

namespace Endpoint.Simulated

variable {endpoint : Endpoint (γ × SimulatedCard)} {channel : Channel (γ × SimulatedCard)}

lemma arm_arms (h : endpoint.Simulated) (source : DataSource) :
    Ensures (endpoint.arm source) channel (fun _ last => last.card.2.armed = true)
      (fun _ _ => True) := by
  unfold arm
  rw [ensures_bind]
  apply Endpoint.ensures_access.2
  constructor
  · intro _ card hperform
    have harmed : card.2.armed = true := by
      rcases h.perform_cases hperform with ⟨_, _, hreply, _⟩ | ⟨_, hcard⟩
      · cases hreply
      · rw [hcard]
        rfl
    -- Data taking begins without another access to the arming of the buffer.
    rw [ensures_bind, ensures_tryCatch]
    apply (confined_beginDataTaking endpoint source _).mono
    · intro _ begun hbegun
      exact (Setting.armed.value_of_reaches h hbegun (by decide)).trans harmed
    · intro e _ _
      apply Ensures.skip
      intro _ _
      trivial
  · intro fault card _
    trivial

end Endpoint.Simulated

namespace Endpoint.Simulated

variable {endpoint : Endpoint (γ × SimulatedCard)} {channel : Channel (γ × SimulatedCard)}
  {buffer : LinearBuffer} {event : Event}

end Endpoint.Simulated

end DmaReadout
