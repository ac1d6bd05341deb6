import DmaReadout.Proofs.Operations
import DmaReadout.SimulatedCard.FaultScript

/-!
# Runs of a channel

A run is a list of calls on an open channel. The buffer is asked anew in every call, and may
answer differently each time; the card answers through the registers of the endpoint.
-/

namespace DmaReadout

variable {κ : Type}

/-- An operation, with the buffer as it answers meanwhile. -/
structure Call where
  operation : Operation
  buffer : Buffer

def Endpoint.during (endpoint : Endpoint κ) (call : Call) : Endpoint κ :=
  { endpoint with buffer := call.buffer }

/-- The channel after a call, whether that succeeded or failed. -/
def Endpoint.afterCall (endpoint : Endpoint κ) (channel : Channel κ) (call : Call) : Channel κ :=
  lastState (call.operation.run (endpoint.during call)) channel

def Endpoint.afterCalls (endpoint : Endpoint κ) (channel : Channel κ) (calls : List Call) :
    Channel κ :=
  calls.foldl endpoint.afterCall channel

/-- Two links of a simulated card, each with room for two superpages. -/
def twoLinks : Endpoint ScriptedCard where
  parameters := { family := .cru, links := .ofList [⟨0⟩, ⟨1⟩], linkCapacity? := some 2 }
  registers := ScriptedCard.registers
  buffer := LinearBuffer.toBuffer { size := 0x100000 }

/-- The channel that is opened on the two links. -/
def twoLinksChannel (card : ScriptedCard) : Channel ScriptedCard where
  lifecycle := .stopped
  pipeline := .idle [⟨0⟩, ⟨1⟩] 2 4
  debugModeSet := false
  card
  journal := { records := (Endpoint.openingRecords twoLinks.parameters [⟨0⟩, ⟨1⟩]).toArray }

lemma openChannel_twoLinks (card : ScriptedCard) :
    twoLinks.openChannel card = .ok (twoLinksChannel card) := rfl

/-- A channel as it is opened. -/
structure Opened (endpoint : Endpoint κ) (card : κ) (links : List LinkId)
    (channel : Channel κ) : Prop where
  valid : endpoint.parameters.validate = .ok links
  lifecycle : channel.lifecycle = .stopped
  pipeline : channel.pipeline = .idle links endpoint.parameters.linkCapacity
    (endpoint.parameters.readyCapacity links.length)
  card : channel.card = card

/-- Opening succeeds only with parameters that pass both checks. -/
lemma Endpoint.eq_of_openChannel {endpoint : Endpoint κ} {card : κ} {channel : Channel κ}
    (h : endpoint.openChannel card = .ok channel) :
    let parameters := endpoint.parameters
    ResetLevel.check parameters.family parameters.resetLevel parameters.loopback = .ok () ∧
      ∃ links, parameters.validate = .ok links ∧ channel = {
        lifecycle := .stopped
        pipeline := .idle links parameters.linkCapacity (parameters.readyCapacity links.length)
        debugModeSet := false
        card
        journal := { records := (openingRecords parameters links).toArray } } := by
  intro parameters
  unfold openChannel at h
  extract_lets at h
  cases hvalid : parameters.validate with
  | error e => simp [hvalid] at h
  | ok links =>
    cases hcheck : ResetLevel.check parameters.family parameters.resetLevel
        parameters.loopback with
    | error e => simp [hvalid, hcheck] at h
    | ok =>
      simp only [hvalid, hcheck, Except.ok.injEq] at h
      exact ⟨rfl, links, rfl, h.symm⟩

lemma exists_opened {endpoint : Endpoint κ} {card : κ} {channel : Channel κ}
    (h : endpoint.openChannel card = .ok channel) :
    ∃ links, Opened endpoint card links channel := by
  obtain ⟨-, links, hvalid, rfl⟩ := Endpoint.eq_of_openChannel h
  exact ⟨links, hvalid, rfl, rfl, rfl⟩

/-- A channel that was just opened has not set the debug mode, and has counted nothing. -/
lemma Endpoint.fresh_of_openChannel {endpoint : Endpoint κ} {card : κ} {channel : Channel κ}
    (h : endpoint.openChannel card = .ok channel) :
    channel.debugModeSet = false ∧ channel.journal.metrics = #[] := by
  obtain ⟨-, links, -, rfl⟩ := eq_of_openChannel h
  exact ⟨rfl, rfl⟩

/-- The links of a channel are distinct. -/
lemma Opened.nodup {endpoint : Endpoint κ} {card : κ} {links : List LinkId}
    {channel : Channel κ} (h : Opened endpoint card links channel) :
    (channel.pipeline.links.map Link.id).Nodup := by
  have hvalid := h.valid
  have hlinks : endpoint.parameters.enabledLinks = .ok links := by
    unfold Parameters.validate at hvalid
    grind
  have hnodup : links.Nodup := by
    unfold Parameters.enabledLinks at hlinks
    extract_lets family at hlinks
    by_cases hfirst : (!family.isMultiLink || endpoint.parameters.links.ids.isEmpty) = true
    · rw [if_pos hfirst, Except.ok.injEq] at hlinks
      rw [← hlinks]
      exact List.pairwise_singleton _ _
    · rw [if_neg hfirst] at hlinks
      cases hunknown : Parameters.unknownLink? family endpoint.parameters.links.ids with
      | some id => simp [hunknown] at hlinks
      | none =>
        simp only [hunknown, Except.ok.injEq] at hlinks
        rw [← hlinks]
        apply endpoint.parameters.links.ascending.imp
        intro first second hlt heq
        rw [heq] at hlt
        exact UInt32.lt_irrefl _ hlt
  have hids : channel.pipeline.links.map Link.id = links := by
    rw [h.pipeline, Pipeline.idle, List.map_map]
    exact List.map_id links
  rw [hids]
  exact hnodup

end DmaReadout
