import DmaReadout.Proofs.AccessKinds
import DmaReadout.Proofs.CardMaps
import DmaReadout.Proofs.SimulatedRuns

/-!
# Histories of accesses

The log of a card holds the commands that it obeyed. A recorder in front of the registers, which
passes every access on and every answer back, keeps those that failed as well.
-/

namespace DmaReadout

variable {γ κ : Type}

/-- An access that was made, and whether it succeeded. -/
structure PastAccess where
  access : Access
  succeeded : Bool
deriving DecidableEq

/-- All accesses that were made, oldest first. -/
abbrev AccessHistory := List PastAccess

/-- Registers with a recorder in front of them. -/
def Registers.recorded (registers : Registers κ) : Registers (AccessHistory × κ) where
  perform access state :=
    let (reply, card) := registers.perform access state.2
    (reply, (state.1 ++ [⟨access, reply.isOk⟩], card))

lemma Registers.perform_recorded {registers : Registers κ} {access : Access} {card card' : κ}
    {reply : Except Fault access.Reply} (h : registers.perform access card = (reply, card'))
    (history : AccessHistory) :
    registers.recorded.perform access (history, card) =
      (reply, (history ++ [⟨access, reply.isOk⟩], card')) := by
  simp only [recorded, h]

def Endpoint.recorded (endpoint : Endpoint κ) : Endpoint (AccessHistory × κ) :=
  endpoint.on endpoint.registers.recorded

/-- The channel with a recorder that has seen these accesses. -/
def Channel.withHistory (channel : Channel κ) (history : AccessHistory) :
    Channel (AccessHistory × κ) :=
  channel.mapCard fun card => (history, card)

/-- The accesses that an operation makes. -/
def Operation.accesses (operation : Operation) (endpoint : Endpoint κ) (channel : Channel κ) :
    AccessHistory :=
  (lastState (operation.run endpoint.recorded) (channel.withHistory [])).card.1

/-- The accesses that closing makes. -/
def Endpoint.closingAccesses (endpoint : Endpoint κ) (channel : Channel κ) : AccessHistory :=
  (endpoint.recorded.close (channel.withHistory [])).card.1

/-- The accesses that are made in a run. -/
def Endpoint.accesses (endpoint : Endpoint (γ × SimulatedCard)) :
    Channel (γ × SimulatedCard) → List Event → AccessHistory
  | _, [] => []
  | channel, .call call :: events =>
    call.operation.accesses (endpoint.during call) channel ++
      endpoint.accesses (endpoint.afterCall channel call) events
  | channel, .control control :: events =>
    endpoint.accesses (endpoint.afterEvent channel (.control control)) events

section Recorder

lemma Registers.recorded_agree (registers : Registers κ) :
    registers.recorded.Agree Prod.snd registers := by
  rintro access ⟨history, card⟩ reply state' hperform
  rcases hplain : registers.perform access card with ⟨answer, card'⟩
  rw [perform_recorded hplain, Prod.mk.injEq] at hperform
  obtain ⟨rfl, rfl⟩ := hperform
  rfl

/-- What was recorded earlier makes no difference to what is recorded. -/
lemma Registers.recorded_agree_append (registers : Registers κ) (earlier : AccessHistory) :
    registers.recorded.Agree (fun state => (earlier ++ state.1, state.2)) registers.recorded := by
  rintro access ⟨history, card⟩ reply state' hperform
  rcases hplain : registers.perform access card with ⟨answer, card'⟩
  rw [perform_recorded hplain, Prod.mk.injEq] at hperform
  obtain ⟨rfl, rfl⟩ := hperform
  rw [perform_recorded hplain, List.append_assoc]

/-- A recorder is not noticed. -/
theorem Operation.run_recorded (endpoint : Endpoint κ) (operation : Operation) :
    Mirrors Prod.snd (operation.run endpoint.recorded) (operation.run endpoint) :=
  Registers.Agree.run endpoint.registers.recorded_agree operation

theorem Operation.lastState_recorded (endpoint : Endpoint κ) (operation : Operation)
    (channel : Channel κ) (history : AccessHistory) :
    lastState (operation.run endpoint.recorded) (channel.withHistory history) =
      (lastState (operation.run endpoint) channel).withHistory
        (history ++ operation.accesses endpoint channel) := by
  have hplain := (operation.run_recorded endpoint).lastState_eq (channel.withHistory [])
  have happend : Mirrors (fun state => (history ++ state.1, state.2))
      (operation.run endpoint.recorded) (operation.run endpoint.recorded) :=
    Registers.Agree.run (endpoint.registers.recorded_agree_append history) operation
  have hlast := happend.lastState_eq (channel.withHistory [])
  have hstart : (channel.withHistory []).mapCard (fun state => (history ++ state.1, state.2)) =
      channel.withHistory history := by
    simp only [Channel.withHistory, Channel.mapCard, List.append_nil]
  rw [hstart] at hlast
  change lastState (operation.run endpoint) channel = _ at hplain
  rw [hlast, hplain]
  rfl

/-- What the operation ensures in front of a recorder tells what it answers and where it ends, and
which accesses it makes. -/
theorem Operation.answered_of_recorded {endpoint : Endpoint κ} {operation : Operation}
    {channel : Channel κ} {ok : operation.Reply → Channel (AccessHistory × κ) → Prop}
    {failed : ReadoutError → Channel (AccessHistory × κ) → Prop}
    (h : Ensures (operation.run endpoint.recorded) (channel.withHistory []) ok failed) :
    let last := (lastState (operation.run endpoint) channel).withHistory
      (operation.accesses endpoint channel)
    (∃ a, answer (operation.run endpoint) channel = .ok a ∧ ok a last) ∨
      ∃ e, answer (operation.run endpoint) channel = .error e ∧ failed e last := by
  have hanswer := (operation.run_recorded endpoint).answer_eq (channel.withHistory [])
  have hlast := operation.lastState_recorded endpoint channel []
  have hanswered := h.answered
  rwa [← hanswer, hlast] at hanswered

lemma Operation.refused_of_recorded (operation : Operation) {endpoint : Endpoint κ}
    {channel : Channel κ} {e : ReadoutError}
    (h : Ensures (operation.run endpoint.recorded) (channel.withHistory []) (fun _ _ => False)
      (fun e' last => e' = e ∧ last.card.1 = [])) :
    answer (operation.run endpoint) channel = .error e ∧
      operation.accesses endpoint channel = [] := by
  rcases Operation.answered_of_recorded h with ⟨_, -, hfalse⟩ | ⟨_, hanswer, rfl, hmade⟩
  · exact hfalse.elim
  · exact ⟨hanswer, hmade⟩

lemma Endpoint.close_recorded (endpoint : Endpoint κ) (channel : Channel κ) :
    (endpoint.recorded.close (channel.withHistory [])).mapCard Prod.snd =
      endpoint.close channel := by
  rw [close_eq, close_eq]
  exact ((Registers.Agree.shutDown endpoint.registers.recorded_agree).lastState_eq
    (channel.withHistory [])).symm

end Recorder

/-- After the last time that `on` succeeded, `off` was tried and failed. -/
def RefusedSince (on off : Command) (history : AccessHistory) : Prop :=
  ∃ before after, history = before ++ ⟨.write on, true⟩ :: after ∧
    ⟨.write on, true⟩ ∉ after ∧ ⟨.write off, false⟩ ∈ after

namespace RefusedSince

variable {on off : Command} {history : AccessHistory}

lemma mem (h : RefusedSince on off history) : ⟨.write on, true⟩ ∈ history := by
  obtain ⟨before, after, rfl, -, -⟩ := h
  exact List.mem_append_right _ List.mem_cons_self

lemma append (h : RefusedSince on off history) {past : PastAccess}
    (hpast : past ≠ ⟨.write on, true⟩) : RefusedSince on off (history ++ [past]) := by
  obtain ⟨before, after, rfl, hon, hoff⟩ := h
  refine ⟨before, after ++ [past], ?_, ?_, List.mem_append_left _ hoff⟩
  · rw [List.append_assoc, List.cons_append]
  · rw [List.mem_append, List.mem_singleton]
    rintro (hmem | heq)
    · exact hon hmem
    · exact hpast heq.symm

/-- Once `on` has succeeded, a failure of `off` comes after the last time. -/
lemma of_failure (hon : ⟨.write on, true⟩ ∈ history) :
    RefusedSince on off (history ++ [⟨.write off, false⟩]) := by
  have hmem : ⟨.write on, true⟩ ∈ history.reverse := List.mem_reverse.2 hon
  obtain ⟨after, before, hsplit, hlast⟩ := List.eq_append_cons_of_mem hmem
  have hhistory : history = before.reverse ++ ⟨.write on, true⟩ :: after.reverse := by
    rw [← List.reverse_reverse history, hsplit]
    simp
  refine ⟨before.reverse, after.reverse ++ [⟨.write off, false⟩], ?_, ?_, ?_⟩
  · rw [hhistory, List.append_assoc, List.cons_append]
  · rw [List.mem_append, List.mem_reverse, List.mem_singleton]
    rintro (hmem | heq)
    · exact hlast hmem
    · cases heq
  · exact List.mem_append_right _ (List.mem_singleton_self _)

end RefusedSince

namespace Endpoint

variable {endpoint : Endpoint (γ × SimulatedCard)} {kinds : List Access.Kind}
  {state state' : AccessHistory × γ × SimulatedCard}

/-- An access to a simulated card has its effect or fails without one, and is recorded so. -/
theorem Simulated.recorded_cases (h : endpoint.Simulated) {access : Access}
    {reply : Except Fault access.Reply}
    (hperform : endpoint.recorded.registers.perform access state = (reply, state')) :
    ((∃ fault, reply = .error fault) ∧ state'.1 = state.1 ++ [⟨access, false⟩] ∧
        ∃ failNext, state'.2.2 = { state.2.2 with failNext }) ∨
      (∃ answer, reply = .ok answer) ∧ state'.1 = state.1 ++ [⟨access, true⟩] ∧
        state'.2.2 = state.2.2.after access := by
  rcases hplain : endpoint.registers.perform access state.2 with ⟨answer, guard, card⟩
  have hrecorded : (answer, (state.1 ++ [⟨access, answer.isOk⟩], guard, card)) =
      (reply, state') :=
    (Registers.perform_recorded hplain state.1).symm.trans hperform
  rw [Prod.mk.injEq] at hrecorded
  obtain ⟨rfl, rfl⟩ := hrecorded
  rcases h.perform_cases hplain with ⟨fault, failNext, rfl, hcard⟩ | ⟨rfl, hcard⟩
  · exact .inl ⟨⟨fault, rfl⟩, rfl, failNext, hcard⟩
  · exact .inr ⟨⟨_, rfl⟩, rfl, hcard⟩

theorem Simulated.history_of_reaches (h : endpoint.Simulated)
    (hreaches : endpoint.recorded.registers.Reaches kinds state state') :
    ∃ made, state'.1 = state.1 ++ made ∧ ∀ past ∈ made, past.access.kind ∈ kinds := by
  induction hreaches with
  | refl => exact ⟨[], by simp⟩
  | @tail middle last _ htouch ih =>
    obtain ⟨made, hmade, hkinds⟩ := ih
    obtain ⟨access, reply, hkind, hperform⟩ := htouch
    have hlast : ∃ succeeded, last.1 = middle.1 ++ [⟨access, succeeded⟩] := by
      rcases h.recorded_cases hperform with ⟨-, hhistory, -⟩ | ⟨-, hhistory, -⟩
      · exact ⟨false, hhistory⟩
      · exact ⟨true, hhistory⟩
    obtain ⟨succeeded, hhistory⟩ := hlast
    refine ⟨made ++ [⟨access, succeeded⟩], ?_, ?_⟩
    · rw [hhistory, hmade, List.append_assoc]
    · intro past hpast
      rcases List.mem_append.1 hpast with hpast | hpast
      · exact hkinds past hpast
      · rw [List.mem_singleton.1 hpast]
        exact hkind

end Endpoint

end DmaReadout
