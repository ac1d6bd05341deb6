import DmaReadout.Proofs.Coupling

/-!
# Channels in lockstep

A channel knows its card from the answers to its accesses only. So on cards that answer alike two
channels go through every operation in lockstep: with the same results and errors, and with the
same queues.
-/

namespace DmaReadout

variable {κ κ' : Type}

/-- Channels that stand alike on related cards. If they are traced, then they have the same
journal, and have or have not switched the debug mode on. -/
structure Channel.Alike (cards : κ → κ' → Prop) (traced : Prop) (channel : Channel κ)
    (channel' : Channel κ') : Prop where
  lifecycle : channel'.lifecycle = channel.lifecycle
  pipeline : channel'.pipeline = channel.pipeline
  card : cards channel.card channel'.card
  trace : traced → channel'.debugModeSet = channel.debugModeSet ∧
    channel'.journal = channel.journal

section Alike

open Channel (Alike)

variable {cards : κ → κ' → Prop} {traced : Prop}

namespace Lockstep

lemma setPipeline (pipeline : Pipeline) :
    Lockstep (Alike cards traced) (Channel.setPipeline pipeline)
      (Channel.setPipeline pipeline) :=
  modify fun _ _ h => ⟨h.lifecycle, rfl, h.card, h.trace⟩

lemma advance (quotas : List Nat) :
    Lockstep (Alike cards traced) (Channel.advance quotas) (Channel.advance quotas) := by
  apply get_bind
  intro channel channel' hr
  rw [hr.pipeline]
  apply (ofExcept _).bind
  rintro ⟨pipeline, moves⟩
  refine (modify ?_).bind fun _ => pure _
  intro channel channel' hr
  refine ⟨hr.lifecycle, rfl, hr.card, fun htraced => ⟨(hr.trace htraced).1, ?_⟩⟩
  exact congrArg (Journal.countMoves moves) (hr.trace htraced).2

lemma peek : Lockstep (Alike cards traced) Channel.peek Channel.peek := by
  apply get_bind
  intro channel channel' hr
  rw [hr.pipeline]
  exact ofExcept _

lemma pop : Lockstep (Alike cards traced) Channel.pop Channel.pop := by
  apply get_bind
  intro channel channel' hr
  rw [hr.pipeline]
  apply (ofExcept _).bind
  rintro ⟨superpage, pipeline⟩
  exact (setPipeline _).bind fun _ => pure _

end Lockstep

lemma Channel.Alike.coupling :
    Channel.Coupling (Alike cards traced : Channel κ → Channel κ' → Prop) where
  lifecycle h := h.lifecycle
  gauges h := by rw [h.pipeline]
  checkCapacity h := by rw [h.pipeline]
  checkDrained h := by rw [h.pipeline]
  noted record _ _ h := ⟨h.lifecycle, h.pipeline, h.card, fun htraced =>
    ⟨(h.trace htraced).1, congrArg (Journal.note record) (h.trace htraced).2⟩⟩
  counted metric _ _ h := ⟨h.lifecycle, h.pipeline, h.card, fun htraced =>
    ⟨(h.trace htraced).1, congrArg (Journal.count metric) (h.trace htraced).2⟩⟩
  settled lifecycle _ _ h := ⟨rfl, h.pipeline, h.card, h.trace⟩
  switchedOn h := ⟨h.lifecycle, h.pipeline, h.card, fun htraced => ⟨rfl, (h.trace htraced).2⟩⟩
  cleared h := ⟨h.lifecycle, congrArg Pipeline.clear h.pipeline, h.card, h.trace⟩
  advance quotas := .advance quotas

/-- The answers that the endpoint gets are those of the other registers, and lead from related
cards to related cards. -/
def Endpoint.Matches (endpoint : Endpoint κ) (cards : κ → κ' → Prop)
    (registers' : Registers κ') : Prop :=
  ∀ access, endpoint.Makes access → ∀ card card', cards card card' →
    ∀ reply next, endpoint.registers.perform access card = (reply, next) →
      ∃ next', registers'.perform access card' = (reply, next') ∧ cards next next'

lemma Lockstep.perform {endpoint : Endpoint κ} {registers' : Registers κ'} {access : Access}
    (h : ∀ card card', cards card card' →
      ∀ reply next, endpoint.registers.perform access card = (reply, next) →
        ∃ next', registers'.perform access card' = (reply, next') ∧ cards next next') :
    Lockstep (Alike cards traced) (endpoint.perform access)
      ((endpoint.on registers').perform access) := by
  intro channel channel' hr
  rw [Endpoint.ensures_perform]
  intro reply card hperform
  obtain ⟨card', hperform', hcards⟩ := h _ _ hr.card _ _ hperform
  refine ⟨{ channel' with card := card' }, ?_, hr.lifecycle, hr.pipeline, hcards, hr.trace⟩
  simp only [Endpoint.perform, Endpoint.on, hperform']

/-- Channels on the endpoint and on the other registers stay in lockstep with every access apart
from an external reset, and with that as well if the reset of the card before it is seen as one
with it. Only some levels of a reset are of concern. -/
structure Endpoint.InStep (endpoint : Endpoint κ) (levels : ResetLevel → Prop)
    (cards : κ → κ' → Prop) (traced : Prop) (registers' : Registers κ') : Prop where
  perform : ∀ access, endpoint.Makes access → access.isExternalReset = false →
    Lockstep (Alike cards traced) (endpoint.perform access)
      ((endpoint.on registers').perform access)
  resetWithLink : ∀ level, levels level → endpoint.parameters.family = .crorc →
    level.includesExternal = true → Lockstep (Alike cards traced) (endpoint.resetWithLink level)
      ((endpoint.on registers').resetWithLink level)

namespace Endpoint.InStep

variable {registers' : Registers κ'} {endpoint : Endpoint κ} {levels : ResetLevel → Prop}

lemma coupled (h : endpoint.InStep levels cards traced registers') :
    endpoint.Coupled levels (Alike cards traced) registers' where
  toCoupling := Alike.coupling
  perform := h.perform
  resetWithLink := h.resetWithLink

lemma submit (h : endpoint.InStep levels cards traced registers') (superpage : Superpage)
    (pages : UInt32) (busAddress : UInt64) :
    Lockstep (Alike cards traced) (endpoint.submit superpage pages busAddress)
      ((endpoint.on registers').submit superpage pages busAddress) := by
  apply Lockstep.get_bind
  intro channel channel' hr
  rw [hr.pipeline]
  apply (Lockstep.ofExcept _).bind
  rintro ⟨place, link⟩
  apply (h.coupled.write rfl).bind
  intro _
  apply Lockstep.get_bind
  intro submitted submitted' hr
  rw [hr.pipeline]
  apply (Lockstep.ofExcept _).bind
  intro pipeline
  apply (Lockstep.setPipeline _).bind
  intro _
  exact (h.coupled.count _).bind fun _ => .pure _

/-- Closing asks whether the channel has switched the debug mode on. -/
lemma shutDown (h : endpoint.InStep levels cards True registers') :
    Lockstep (Alike cards True) endpoint.shutDown (endpoint.on registers').shutDown :=
  h.coupled.shutDown (fun hr => (hr.trace trivial).1) (fun hr => by rw [hr.pipeline])

theorem run (h : endpoint.InStep levels cards traced registers') (operation : Operation)
    (hlevels : ∀ level, operation.level? endpoint = some level → levels level) :
    Lockstep (Alike cards traced) (operation.run endpoint)
      (operation.run (endpoint.on registers')) := by
  cases operation with
  | start => exact h.coupled.start (hlevels _ rfl)
  | stop => exact h.coupled.stop
  | reset level => exact h.coupled.reset (hlevels _ rfl)
  | push superpage => exact h.coupled.push rfl (h.submit superpage)
  | fill => exact h.coupled.fill
  | peek => exact .peek
  | pop => exact .pop
  | droppedPackets => exact h.coupled.access (by nofun) rfl
  | injectError => exact h.coupled.injectError

end Endpoint.InStep

namespace Endpoint.Matches

variable {registers' : Registers κ'} {endpoint : Endpoint κ}

lemma inStep (h : endpoint.Matches cards registers') :
    endpoint.InStep (fun _ => True) cards traced registers' where
  perform access hmakes _ := .perform (h access hmakes)
  resetWithLink level _ _ _ := by
    have hwrite (command : Command) : Lockstep (Alike cards traced) (endpoint.write command)
        ((endpoint.on registers').write command) :=
      (Lockstep.perform (h (.write command) nofun)).access
    exact (hwrite _).bind fun _ => hwrite _

theorem run (h : endpoint.Matches cards registers') (operation : Operation) :
    Lockstep (Alike cards traced) (operation.run endpoint)
      (operation.run (endpoint.on registers')) :=
  h.inStep.run operation fun _ _ => trivial

lemma shutDown (h : endpoint.Matches cards registers') :
    Lockstep (Alike cards True) endpoint.shutDown (endpoint.on registers').shutDown :=
  h.inStep.shutDown

end Endpoint.Matches

end Alike

end DmaReadout
