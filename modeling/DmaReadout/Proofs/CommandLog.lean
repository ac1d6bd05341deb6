import DmaReadout.Proofs.RecoverableErrors
import DmaReadout.Proofs.SimulatedRuns

/-!
# The log of a simulated card

A simulated card logs the commands that it obeys. Between the calls a test may clear the log; so
the commands of a run are gathered call by call.
-/

namespace DmaReadout

variable {γ : Type}

/-- What a simulated card logs of an access that it does not refuse. -/
def Access.logged : Access → List Command
  | .write command => [command]
  | _ => []

namespace SimulatedCard

lemma commands_after (card : SimulatedCard) (access : Access) :
    (card.after access).commands.toList = card.commands.toList ++ access.logged := by
  cases access with
  | write command =>
    have hlogged : (card.after (.write command)).commands = card.commands.push command := by
      cases command <;> rfl
    rw [hlogged, Array.toList_push]
    rfl
  | superpageCount link =>
    obtain ⟨counters, hafter⟩ := card.exists_counters_after link
    rw [hafter]
    exact (List.append_nil _).symm
  | debugMode => exact (List.append_nil _).symm
  | droppedPackets => exact (List.append_nil _).symm

lemma commands_after_write (card : SimulatedCard) (command : Command) :
    (card.after (.write command)).commands.toList = card.commands.toList ++ [command] :=
  card.commands_after (.write command)

end SimulatedCard

namespace Endpoint.Simulated

variable {endpoint : Endpoint (γ × SimulatedCard)} {kinds : List Access.Kind}
  {card card' : γ × SimulatedCard}

/-- What no access of these kinds breaks, holds of the card that they lead to. -/
theorem of_reaches (h : endpoint.Simulated) {P : SimulatedCard → Prop}
    (hreaches : endpoint.registers.Reaches kinds card card')
    (hafter : ∀ card access, access.kind ∈ kinds → P card → P (card.after access))
    (hrefused : ∀ (card : SimulatedCard) (failNext), P card → P { card with failNext })
    (hcard : P card.2) : P card'.2 := by
  induction hreaches with
  | refl => exact hcard
  | tail _ htouch ih =>
    obtain ⟨access, reply, hkind, hperform⟩ := htouch
    rcases h.perform_cases hperform with ⟨_, failNext, _, hlast⟩ | ⟨_, hlast⟩
    · rw [hlast]
      exact hrefused _ _ ih
    · rw [hlast]
      exact hafter _ _ hkind ih

lemma commands_of_reaches (h : endpoint.Simulated)
    (hreaches : endpoint.registers.Reaches kinds card card') :
    ∃ added : List Command, card'.2.commands.toList = card.2.commands.toList ++ added ∧
      ∀ command ∈ added, (Access.write command).kind ∈ kinds := by
  apply h.of_reaches (P := fun last => ∃ added : List Command,
    last.commands.toList = card.2.commands.toList ++ added ∧
      ∀ command ∈ added, (Access.write command).kind ∈ kinds) hreaches
  · rintro middle access hkind ⟨added, hmiddle, hkinds⟩
    refine ⟨added ++ access.logged, ?_, ?_⟩
    · rw [middle.commands_after, hmiddle, List.append_assoc]
    · intro command hmem
      rcases List.mem_append.1 hmem with hmem | hmem
      · exact hkinds _ hmem
      · cases access with
        | write command' =>
          rw [List.mem_singleton.1 hmem]
          exact hkind
        | _ => cases hmem
  · intro middle failNext hmiddle
    exact hmiddle
  · exact ⟨[], (List.append_nil _).symm, by simp⟩

end Endpoint.Simulated

def newCommands (before after : Channel (γ × SimulatedCard)) : List Command :=
  after.card.2.commands.toList.drop before.card.2.commands.size

lemma newCommands_of_append {before after : Channel (γ × SimulatedCard)} {added : List Command}
    (h : after.card.2.commands.toList = before.card.2.commands.toList ++ added) :
    newCommands before after = added := by
  rw [newCommands, h, ← Array.length_toList, List.drop_left]

namespace Endpoint

variable {endpoint : Endpoint (γ × SimulatedCard)} {channel : Channel (γ × SimulatedCard)}

/-- The commands that the card logs in a run, even those that are cleared later. -/
def obeyed (endpoint : Endpoint (γ × SimulatedCard)) :
    Channel (γ × SimulatedCard) → List Event → List Command
  | _, [] => []
  | channel, event :: events =>
    let next := endpoint.afterEvent channel event
    newCommands channel next ++ endpoint.obeyed next events

lemma Simulated.commands_call (h : endpoint.Simulated) (channel : Channel (γ × SimulatedCard))
    (call : Call) :
    ∃ added : List Command,
      (endpoint.afterCall channel call).card.2.commands.toList =
        channel.card.2.commands.toList ++ added ∧
      ∀ command ∈ added, (Access.write command).kind ∈ call.operation.kinds :=
  (h.during call).commands_of_reaches (call.operation.reaches (endpoint.during call) channel)

end Endpoint

lemma newCommands_control (endpoint : Endpoint (γ × SimulatedCard))
    (channel : Channel (γ × SimulatedCard)) (control : CardControl) :
    newCommands channel (endpoint.afterEvent channel (.control control)) = [] := by
  apply List.drop_eq_nil_of_le
  cases control with
  | clearCommands => exact Nat.zero_le _
  | _ => exact Nat.le_refl _

end DmaReadout
