import DmaReadout.Proofs.CommandLog

/-!
# Turns

The card of an open channel may be in other hands as well, which can do anything to it between
two calls. A run is then a list of turns, each a call on the channel or a change of its card. What
the channel itself adds to the log of a simulated card is gathered call by call.
-/

namespace DmaReadout

variable {κ γ : Type}

inductive Turn (κ : Type)
  | call (call : Call)
  /-- Somebody else does something to the card. -/
  | change (f : κ → κ)

/-- The turn of a test that controls the simulated card. -/
def Turn.control (control : CardControl) : Turn (γ × SimulatedCard) :=
  .change fun card => (card.1, card.2.control control)

namespace Endpoint

def afterTurn (endpoint : Endpoint κ) (channel : Channel κ) : Turn κ → Channel κ
  | .call call => endpoint.afterCall channel call
  | .change f => { channel with card := f channel.card }

def afterTurns (endpoint : Endpoint κ) (channel : Channel κ) (turns : List (Turn κ)) :
    Channel κ :=
  turns.foldl endpoint.afterTurn channel

/-- Adds up a number for every call of a run, in view of the channel that it is made on. -/
def sumCalls (endpoint : Endpoint κ) (number : Channel κ → Call → Nat) :
    Channel κ → List (Turn κ) → Nat
  | _, [] => 0
  | channel, .call call :: turns =>
    number channel call + endpoint.sumCalls number (endpoint.afterCall channel call) turns
  | channel, .change f :: turns =>
    endpoint.sumCalls number { channel with card := f channel.card } turns

/-- The commands that the card logs for the calls of a run, whatever others do to the log. -/
def written (endpoint : Endpoint (γ × SimulatedCard)) :
    Channel (γ × SimulatedCard) → List (Turn (γ × SimulatedCard)) → List Command
  | _, [] => []
  | channel, .call call :: turns =>
    let next := endpoint.afterCall channel call
    newCommands channel next ++ endpoint.written next turns
  | channel, .change f :: turns => endpoint.written { channel with card := f channel.card } turns

/-- The commands that the card logs for a run and for the closing of the channel after it. -/
def writtenUntilClosed (endpoint : Endpoint (γ × SimulatedCard))
    (channel : Channel (γ × SimulatedCard)) (turns : List (Turn (γ × SimulatedCard))) :
    List Command :=
  let last := endpoint.afterTurns channel turns
  endpoint.written channel turns ++ newCommands last (endpoint.close last)

/-- What every turn preserves holds at the end of the run. -/
theorem afterTurns_induction {endpoint : Endpoint κ} {P : Channel κ → Prop}
    {turns : List (Turn κ)} {channel : Channel κ}
    (hturn : ∀ turn ∈ turns, ∀ channel, P channel → P (endpoint.afterTurn channel turn))
    (hchannel : P channel) : P (endpoint.afterTurns channel turns) := by
  induction turns generalizing channel with
  | nil => exact hchannel
  | cons turn turns ih =>
    rw [List.forall_mem_cons] at hturn
    exact ih hturn.2 (hturn.1 channel hchannel)

/-- What every call writes in a run that keeps to an invariant, and what pieces of the log pass on
to the whole, the log of the run has. -/
theorem written_induction {endpoint : Endpoint (γ × SimulatedCard)}
    {P : Channel (γ × SimulatedCard) → Prop} {Q : List Command → Prop}
    {turns : List (Turn (γ × SimulatedCard))} {channel : Channel (γ × SimulatedCard)}
    (hnil : Q []) (happend : ∀ {log log'}, Q log → Q log' → Q (log ++ log'))
    (hcall : ∀ call, .call call ∈ turns → ∀ channel, P channel →
      P (endpoint.afterCall channel call) ∧
        Q (newCommands channel (endpoint.afterCall channel call)))
    (hchange : ∀ f, .change f ∈ turns → ∀ channel, P channel →
      P { channel with card := f channel.card })
    (hchannel : P channel) :
    P (endpoint.afterTurns channel turns) ∧ Q (endpoint.written channel turns) := by
  induction turns generalizing channel with
  | nil => exact ⟨hchannel, hnil⟩
  | cons turn turns ih =>
    have hrest {next : Channel (γ × SimulatedCard)} (hnext : P next) :
        P (endpoint.afterTurns next turns) ∧ Q (endpoint.written next turns) :=
      ih (fun call hmem => hcall call (List.mem_cons_of_mem _ hmem))
        (fun f hmem => hchange f (List.mem_cons_of_mem _ hmem)) hnext
    cases turn with
    | call call =>
      obtain ⟨hnext, hwritten⟩ := hcall call List.mem_cons_self channel hchannel
      obtain ⟨hlast, hlog⟩ := hrest hnext
      exact ⟨hlast, happend hwritten hlog⟩
    | change f => exact hrest (hchange f List.mem_cons_self channel hchannel)

/-- Closing logs its commands behind the others. -/
lemma Simulated.commands_close {endpoint : Endpoint (γ × SimulatedCard)} (h : endpoint.Simulated)
    (channel : Channel (γ × SimulatedCard)) :
    ∃ added : List Command, (endpoint.close channel).card.2.commands.toList =
        channel.card.2.commands.toList ++ added ∧
      ∀ command ∈ added, (Access.write command).kind ∈ [.setBufferReady, .setDebugMode] := by
  obtain ⟨reply, tried, hdisarm, hrestore⟩ := endpoint.close_reaches channel
  have htried : endpoint.registers.Reaches [.setBufferReady, .setDebugMode] channel.card tried :=
    Registers.Reaches.of_perform (by decide) hdisarm
  exact h.commands_of_reaches (htried.trans (hrestore.mono (by decide)))

/-- Unless others touch the log, it has at the end what was written in the run. -/
theorem Simulated.commands_afterTurns {endpoint : Endpoint (γ × SimulatedCard)}
    (h : endpoint.Simulated) {channel : Channel (γ × SimulatedCard)}
    {turns : List (Turn (γ × SimulatedCard))}
    (hlog : ∀ f, .change f ∈ turns → ∀ card : γ × SimulatedCard,
      (f card).2.commands = card.2.commands) :
    (endpoint.afterTurns channel turns).card.2.commands.toList =
      channel.card.2.commands.toList ++ endpoint.written channel turns := by
  induction turns generalizing channel with
  | nil => exact (List.append_nil _).symm
  | cons turn turns ih =>
    have hrest {next : Channel (γ × SimulatedCard)} :
        (endpoint.afterTurns next turns).card.2.commands.toList =
          next.card.2.commands.toList ++ endpoint.written next turns :=
      ih fun f hmem => hlog f (List.mem_cons_of_mem _ hmem)
    cases turn with
    | call call =>
      obtain ⟨added, hadded, -⟩ := h.commands_call channel call
      rw [written, newCommands_of_append hadded, ← List.append_assoc, ← hadded]
      exact hrest
    | change f =>
      have hsame := congrArg Array.toList (hlog f List.mem_cons_self channel.card)
      rw [written, ← hsame]
      exact hrest

theorem Simulated.commands_closed {endpoint : Endpoint (γ × SimulatedCard)}
    (h : endpoint.Simulated) {channel : Channel (γ × SimulatedCard)}
    {turns : List (Turn (γ × SimulatedCard))}
    (hlog : ∀ f, .change f ∈ turns → ∀ card : γ × SimulatedCard,
      (f card).2.commands = card.2.commands) :
    (endpoint.close (endpoint.afterTurns channel turns)).card.2.commands.toList =
      channel.card.2.commands.toList ++ endpoint.writtenUntilClosed channel turns := by
  obtain ⟨added, hadded, -⟩ := h.commands_close (endpoint.afterTurns channel turns)
  rw [writtenUntilClosed, newCommands_of_append hadded, hadded, h.commands_afterTurns hlog,
    List.append_assoc]

end Endpoint

end DmaReadout
