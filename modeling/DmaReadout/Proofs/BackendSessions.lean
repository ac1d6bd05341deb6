import DmaReadout.Proofs.Lockstep
import DmaReadout.Registers.Holding
import DmaReadout.SimulatedCard.Control

/-!
# Sessions on a backend

A backend is the way in which a channel holds its card and its buffer. A session opens a channel
on a backend, makes calls on it while a test controls the card, and closes it. On backends that
stay in step a session takes the same course.
-/

namespace DmaReadout

open Channel (Alike)

variable {σ σ' ρ α β : Type}

/-- What a test does to the card between the calls. -/
inductive CardChange
  | control (control : CardControl)
  /-- Lets some accesses fail from now on. -/
  | inject (fault : ScriptedFault)

def CardChange.apply : CardChange → ScriptedCard → ScriptedCard
  | .control action, card => (card.1, card.2.control action)
  | .inject fault, card => (card.1 ++ [fault], card.2)

inductive SessionStep
  | call (operation : Operation)
  | change (change : CardChange)

/-- What an operation has given back. -/
structure Answer where
  operation : Operation
  result : Except ReadoutError operation.Reply

/-- The course of a session. -/
structure Proceedings (σ : Type) where
  answers : List Answer
  /-- The channel before it is closed. -/
  last : Channel σ
  /-- What is left of the channel. -/
  closed : Channel σ

structure Backend (σ : Type) where
  registers : Registers σ
  /-- Where a test finds the card. -/
  holding : Holding σ ScriptedCard
  buffer : Buffer

namespace Backend

/-- The channel owns its card and its buffer. -/
def plain (registers : Registers ScriptedCard) (buffer : Buffer) : Backend ScriptedCard where
  registers
  holding := .owned
  buffer

/-- The channel reaches its card and its buffer through their holders. -/
def held (registers : Registers ScriptedCard) (holding : Holding σ ScriptedCard)
    (lending : Holding ρ Buffer) (lender : ρ) : Backend σ where
  registers := registers.through holding
  holding
  buffer := .through lending lender

def endpoint (backend : Backend σ) (parameters : Parameters) : Endpoint σ where
  parameters
  registers := backend.registers
  buffer := backend.buffer

def afterStep (backend : Backend σ) (parameters : Parameters) (channel : Channel σ) :
    SessionStep → Channel σ
  | .call operation => lastState (operation.run (backend.endpoint parameters)) channel
  | .change change => { channel with card := backend.holding.modify change.apply channel.card }

def afterSteps (backend : Backend σ) (parameters : Parameters) (channel : Channel σ)
    (steps : List SessionStep) : Channel σ :=
  steps.foldl (backend.afterStep parameters) channel

/-- What the calls of a session answer. -/
def answers (backend : Backend σ) (parameters : Parameters) :
    Channel σ → List SessionStep → List Answer
  | _, [] => []
  | channel, .call operation :: steps =>
    ⟨operation, answer (operation.run (backend.endpoint parameters)) channel⟩ ::
      backend.answers parameters (backend.afterStep parameters channel (.call operation)) steps
  | channel, .change change :: steps =>
    backend.answers parameters (backend.afterStep parameters channel (.change change)) steps

def session (backend : Backend σ) (parameters : Parameters) (holder : σ)
    (steps : List SessionStep) : Except ReadoutError (Proceedings σ) :=
  ((backend.endpoint parameters).openChannel holder).map fun channel =>
    let last := backend.afterSteps parameters channel steps
    { answers := backend.answers parameters channel steps
      last
      closed := (backend.endpoint parameters).close last }

end Backend

/-- Both have failed with the same error, or both have succeeded with related results. -/
inductive SameOutcome (R : α → β → Prop) :
    Except ReadoutError α → Except ReadoutError β → Prop
  | error (e : ReadoutError) : SameOutcome R (.error e) (.error e)
  | ok {a : α} {b : β} (related : R a b) : SameOutcome R (.ok a) (.ok b)

lemma SameOutcome.map {γ δ : Type} {R : α → β → Prop} {S : γ → δ → Prop} {f : α → γ} {g : β → δ}
    {outcome : Except ReadoutError α} {outcome' : Except ReadoutError β}
    (h : SameOutcome R outcome outcome') (hmap : ∀ a b, R a b → S (f a) (g b)) :
    SameOutcome S (outcome.map f) (outcome'.map g) := by
  cases h with
  | error e => exact .error e
  | ok related => exact .ok (hmap _ _ related)

/-- The sessions have the same answers, and channels that stand alike on related cards. -/
structure Proceedings.Same (cards : σ → σ' → Prop) (proceedings : Proceedings σ)
    (proceedings' : Proceedings σ') : Prop where
  answers : proceedings'.answers = proceedings.answers
  last : Alike cards True proceedings.last proceedings'.last
  closed : Alike cards True proceedings.closed proceedings'.closed

variable {cards : σ → σ' → Prop} {levels : ResetLevel → Prop}

/-- Opening a channel does not look at the card. -/
lemma Endpoint.openChannel_alike (endpoint : Endpoint σ) (registers' : Registers σ') {card : σ}
    {card' : σ'} (hcard : cards card card') :
    SameOutcome (Alike cards True) (endpoint.openChannel card)
      ((endpoint.on registers').openChannel card') := by
  cases hvalid : endpoint.parameters.validate with
  | error e =>
    simp only [openChannel, on, hvalid]
    exact .error e
  | ok links =>
    cases hcheck : ResetLevel.check endpoint.parameters.family endpoint.parameters.resetLevel
        endpoint.parameters.loopback with
    | error e =>
      simp only [openChannel, on, hvalid, hcheck]
      exact .error e
    | ok =>
      simp only [openChannel, on, hvalid, hcheck]
      exact .ok ⟨rfl, rfl, hcard, fun _ => ⟨rfl, rfl⟩⟩

namespace Backend

variable {backend : Backend σ} {backend' : Backend σ'} {parameters : Parameters}

/-- A step keeps the channels alike, and a call has the same answer. -/
lemma steps_inStep
    (hendpoint : (backend.endpoint parameters).on backend'.registers =
      backend'.endpoint parameters)
    (hinStep : (backend.endpoint parameters).InStep levels cards True backend'.registers)
    {steps : List SessionStep}
    (hchange : ∀ change, .change change ∈ steps → ∀ card card', cards card card' →
      cards (backend.holding.modify change.apply card)
        (backend'.holding.modify change.apply card'))
    (hlevels : ∀ operation, .call operation ∈ steps → ∀ level,
      operation.level? (backend.endpoint parameters) = some level → levels level)
    {channel : Channel σ} {channel' : Channel σ'} (halike : Alike cards True channel channel') :
    backend'.answers parameters channel' steps = backend.answers parameters channel steps ∧
      Alike cards True (backend.afterSteps parameters channel steps)
        (backend'.afterSteps parameters channel' steps) := by
  induction steps generalizing channel channel' with
  | nil => exact ⟨rfl, halike⟩
  | cons step steps ih =>
    have hrest {channel : Channel σ} {channel' : Channel σ'}
        (halike : Alike cards True channel channel') :=
      ih (fun change hmem => hchange change (List.mem_cons_of_mem _ hmem))
        (fun operation hmem => hlevels operation (List.mem_cons_of_mem _ hmem)) halike
    cases step with
    | call operation =>
      have hrun := hinStep.run operation (hlevels operation List.mem_cons_self)
      rw [hendpoint] at hrun
      obtain ⟨hanswers, hlast⟩ := hrest (hrun.lastState halike)
      refine ⟨?_, hlast⟩
      rw [answers, answers, hrun.answer_eq halike]
      exact congrArg _ hanswers
    | change change =>
      have hchanged : Alike cards True
          { channel with card := backend.holding.modify change.apply channel.card }
          { channel' with card := backend'.holding.modify change.apply channel'.card } :=
        ⟨halike.lifecycle, halike.pipeline,
          hchange change List.mem_cons_self _ _ halike.card, halike.trace⟩
      exact hrest hchanged

/-- Backends in step take the same course, from the opening of the channel to its closing. -/
theorem session_inStep
    (hinStep : (backend.endpoint parameters).InStep levels cards True backend'.registers)
    (hbuffer : backend'.buffer = backend.buffer)
    {steps : List SessionStep}
    (hchange : ∀ change, .change change ∈ steps → ∀ card card', cards card card' →
      cards (backend.holding.modify change.apply card)
        (backend'.holding.modify change.apply card'))
    (hlevels : ∀ operation, .call operation ∈ steps → ∀ level,
      operation.level? (backend.endpoint parameters) = some level → levels level)
    {holder : σ} {holder' : σ'} (hcard : cards holder holder') :
    SameOutcome (Proceedings.Same cards) (backend.session parameters holder steps)
      (backend'.session parameters holder' steps) := by
  have hendpoint : (backend.endpoint parameters).on backend'.registers =
      backend'.endpoint parameters := by
    unfold endpoint Endpoint.on
    rw [hbuffer]
  have hopen := (backend.endpoint parameters).openChannel_alike backend'.registers hcard
  rw [hendpoint] at hopen
  refine hopen.map fun channel channel' halike => ?_
  obtain ⟨hanswers, hlast⟩ := steps_inStep hendpoint hinStep hchange hlevels halike
  refine ⟨hanswers, hlast, ?_⟩
  dsimp only
  rw [← hendpoint, Endpoint.close_eq, Endpoint.close_eq]
  exact hinStep.shutDown.lastState hlast

end Backend

end DmaReadout
