import DmaReadout.Proofs.Switches

/-!
# A stopped channel is switched off

A stopped channel must not let the card write: its buffer is disarmed, and data taking is
disabled. Either may fail. A failed start tries both; a stop gives up at the first failure.
-/

namespace DmaReadout

variable {γ : Type}

namespace Switch

/-- While the buffer is armed, the card may write into it. -/
def buffer : Switch where
  on := .setBufferReady true
  off := .setBufferReady false
  isOn := SimulatedCard.armed
  isOn_off _ := rfl
  isOn_after card access hother harmed := by
    cases access with
    | write command =>
      cases command with
      | setBufferReady ready =>
        cases ready with
        | true => exact absurd rfl hother
        | false => cases harmed
      | _ => exact harmed
    | superpageCount link =>
      obtain ⟨counters, hafter⟩ := card.exists_counters_after link
      rw [hafter] at harmed
      exact harmed
    | _ => exact harmed
  isOn_control card control := by cases control <;> rfl
  isOn_refused _ _ := rfl

/-- Whether data of the front end are let in. -/
def dataTaking : Switch where
  on := .enableDataTaking
  off := .disableDataTaking
  isOn := SimulatedCard.dataTaking
  isOn_off _ := rfl
  isOn_after card access hother htaking := by
    cases access with
    | write command =>
      cases command with
      | enableDataTaking => exact absurd rfl hother
      | disableDataTaking => cases htaking
      | _ => exact htaking
    | superpageCount link =>
      obtain ⟨counters, hafter⟩ := card.exists_counters_after link
      rw [hafter] at htaking
      exact htaking
    | _ => exact htaking
  isOn_control card control := by cases control <;> rfl
  isOn_refused _ _ := rfl

variable {endpoint : Endpoint (γ × SimulatedCard)} {channel : Channel (RecordedCard γ)}

/-- A start that fails once the buffer is armed tries to disarm it. -/
lemma abandonStart_disarms (hsimulated : endpoint.Simulated) (h : buffer.Known channel.card) :
    Ensures endpoint.recorded.abandonStart channel
      (fun _ last => buffer.OffUnlessRefused [.setBufferReady false] last.card)
      (fun _ _ => False) := by
  unfold Endpoint.abandonStart
  rw [ensures_bind]
  apply Endpoint.ensures_attempt.mono
  · rintro _ disarmed ⟨reply, hdisarm⟩
    have hoff := h.turnOff hsimulated (List.mem_singleton_self _) hdisarm
    apply Endpoint.ensures_attempt.mono
    · rintro _ last ⟨reply, hhalt⟩
      exact hoff.perform hsimulated hhalt (.inl (by simp [buffer]))
    · intro e last hfalse
      exact hfalse
  · intro e last hfalse
    exact hfalse

lemma buffer_governed : buffer.Governed [.setBufferReady false] γ where
  gating := by decide
  arm endpoint source channel hsimulated h := by
    unfold Endpoint.arm
    rw [ensures_bind]
    apply Endpoint.ensures_access.2
    constructor
    · intro _ card hperform
      have hknown := h.known.perform hsimulated hperform
      rw [ensures_bind, ensures_tryCatch]
      apply (Endpoint.confined_beginDataTaking endpoint.recorded source _).mono
      · intro _ begun hbegun
        exact hknown.reaches hsimulated hbegun
      · rintro e begun ⟨hbegun, -⟩
        -- The start was abandoned: the buffer is armed, and disarming it comes first.
        rw [ensures_bind]
        apply (abandonStart_disarms hsimulated (hknown.reaches hsimulated hbegun)).mono
        · intro _ last hlast
          exact hlast
        · intro e last hfalse
          exact hfalse.elim
    · intro fault card hperform
      exact h.perform hsimulated hperform (.inr ⟨fault, rfl⟩)
  stop endpoint channel hsimulated h := by
    unfold Endpoint.disarmAndDrain
    rw [ensures_bind]
    apply Endpoint.ensures_access.2
    constructor
    · intro _ card hperform
      have hoff := h.turnOff hsimulated (List.mem_singleton_self _) hperform
      apply (Endpoint.confined_haltAndDrain endpoint.recorded _).mono
      · intro _ last hlast
        exact hoff.reaches hsimulated hlast (by decide)
      · rintro e last ⟨hlast, -⟩
        exact hoff.reaches hsimulated hlast (by decide)
    · intro fault card hperform
      exact h.turnOff hsimulated (List.mem_singleton_self _) hperform

/-- Data taking is only enabled by what ends the start well. -/
lemma beginDataTaking_enables {offs : List Command} (hsimulated : endpoint.Simulated)
    (source : DataSource) (h : dataTaking.OffUnlessRefused offs channel.card) :
    Ensures (endpoint.recorded.beginDataTaking source) channel
      (fun _ last => dataTaking.Known last.card)
      (fun _ last => dataTaking.OffUnlessRefused offs last.card) := by
  unfold Endpoint.beginDataTaking
  rw [ensures_bind]
  apply Endpoint.ensures_access.2
  constructor
  · intro _ card hperform
    have hoff := h.perform hsimulated hperform (.inl (by simp [dataTaking]))
    by_cases hexternal : source.isExternal = true
    · rw [if_pos hexternal]
      apply Endpoint.ensures_access.2
      constructor
      · intro _ card' henable
        exact hoff.known.perform hsimulated henable
      · intro fault card' henable
        exact hoff.perform hsimulated henable (.inr ⟨fault, rfl⟩)
    · rw [if_neg hexternal]
      exact hoff.known
  · intro fault card hperform
    exact h.perform hsimulated hperform (.inr ⟨fault, rfl⟩)

lemma dataTaking_governed :
    dataTaking.Governed [.disableDataTaking, .setBufferReady false] γ where
  gating := by decide
  arm endpoint source channel hsimulated h := by
    unfold Endpoint.arm
    rw [ensures_bind]
    apply Endpoint.ensures_access.2
    constructor
    · intro _ card hperform
      let armed := { channel with card }
      have hoff : dataTaking.OffUnlessRefused _ armed.card :=
        h.perform hsimulated hperform (.inl (by simp [dataTaking]))
      rw [ensures_bind, ensures_tryCatch]
      apply (beginDataTaking_enables hsimulated source hoff).mono
      · intro _ begun hbegun
        exact hbegun
      · intro e begun hbegun
        rw [ensures_bind]
        apply (Endpoint.confined_abandonStart endpoint.recorded begun).mono
        · intro _ last hlast
          exact hbegun.reaches hsimulated hlast (by decide)
        · rintro e last ⟨hlast, -⟩
          exact hbegun.reaches hsimulated hlast (by decide)
    · intro fault card hperform
      exact h.perform hsimulated hperform (.inr ⟨fault, rfl⟩)
  stop endpoint channel hsimulated h := by
    unfold Endpoint.disarmAndDrain
    rw [ensures_bind]
    apply Endpoint.ensures_access.2
    constructor
    · intro _ card hdisarm
      have hknown := h.perform hsimulated hdisarm
      rw [ensures_bind]
      apply Endpoint.ensures_access.2
      constructor
      · intro _ card' hhalt
        have hoff : dataTaking.OffUnlessRefused [.disableDataTaking, .setBufferReady false] card' :=
          hknown.turnOff hsimulated List.mem_cons_self hhalt
        apply (Endpoint.confined_drainAndNote endpoint.recorded _).mono
        · intro _ last hlast
          exact hoff.reaches hsimulated hlast (by decide)
        · rintro e last ⟨hlast, -⟩
          exact hoff.reaches hsimulated hlast (by decide)
      · intro fault card' hhalt
        exact hknown.turnOff hsimulated List.mem_cons_self hhalt
    · intro fault card hdisarm
      -- The stop ends here, without an attempt to disable data taking.
      exact h.refused hsimulated (List.mem_cons_of_mem _ (List.mem_singleton_self _)) hdisarm

end Switch

/-- What became of the first access that closing makes decides about the buffer. -/
lemma close_disarms {endpoint : Endpoint (γ × SimulatedCard)} (hsimulated : endpoint.Simulated)
    (channel : Channel (γ × SimulatedCard))
    (harmed : (endpoint.close channel).card.2.armed = true) :
    ∃ rest, endpoint.closingAccesses channel =
      ⟨.write (.setBufferReady false), false⟩ :: rest := by
  obtain ⟨reply, tried, hdisarm, hclosed⟩ :=
    endpoint.recorded.close_reaches (channel.withHistory [])
  rcases hsimulated.recorded_cases hdisarm with ⟨-, hhistory, -⟩ | ⟨-, -, hcard⟩
  · obtain ⟨rest, hrest, -⟩ := hsimulated.history_of_reaches hclosed
    refine ⟨rest, ?_⟩
    rw [Endpoint.closingAccesses, hrest, hhistory]
    rfl
  · have hoff : Switch.buffer.isOn tried.2.2 = false := by
      rw [hcard]
      rfl
    have hstill := Switch.off_of_reaches hoff hsimulated hclosed (by decide)
    rw [← endpoint.close_recorded channel] at harmed
    cases harmed.symm.trans hstill

/-- Whatever was refused: the buffer of a stopped channel is disarmed, unless disarming it was
tried and failed since it was armed. The buffer of a closed channel is disarmed, unless closing
tried that and failed. -/
theorem stopped_disarmed (endpoint : Endpoint (γ × SimulatedCard)) (hsimulated : endpoint.Simulated)
    (card : γ × SimulatedCard) (hdisarmed : card.2.armed = false)
    (channel : Channel (γ × SimulatedCard)) (hopen : endpoint.openChannel card = .ok channel)
    (events : List Event) :
    let last := endpoint.afterEvents channel events
    (last.lifecycle = .stopped → last.card.2.armed = true →
      RefusedSince (.setBufferReady true) (.setBufferReady false)
        (endpoint.accesses channel events)) ∧
    ((endpoint.close last).card.2.armed = true →
      ∃ rest, endpoint.closingAccesses last = ⟨.write (.setBufferReady false), false⟩ :: rest) := by
  intro last
  obtain ⟨links, hopened⟩ := exists_opened hopen
  have hstart : Switch.buffer.Settled [.setBufferReady false] (channel.withHistory []) := by
    apply Switch.Settled.of_off
    change channel.card.2.armed = false
    rw [hopened.card]
    exact hdisarmed
  have hlast := hstart.events Switch.buffer_governed hsimulated events
  constructor
  · intro hstopped harmed
    obtain ⟨off, hoff, hrefused⟩ := hlast.off hstopped harmed
    rw [List.mem_singleton.1 hoff] at hrefused
    exact hrefused
  · exact close_disarms hsimulated last

/-- Neither the stop nor, after a start that fails early, closing can disarm the buffer. -/
theorem stopped_disarmed_refused :
    let script : FaultScript :=
      [⟨.setBufferReady, 1, 2, .because "disarm"⟩, ⟨.setDataSource, 1, 1, .because "source"⟩]
    let channel := twoLinksChannel (script, {})
    let events := [.start, .stop, .start].map fun operation =>
      Event.call ⟨operation, twoLinks.buffer⟩
    let last := twoLinks.afterEvents channel events
    twoLinks.Simulated ∧ twoLinks.openChannel (script, {}) = .ok channel ∧
      last.lifecycle = .stopped ∧ last.card.2.armed = true ∧
      RefusedSince (.setBufferReady true) (.setBufferReady false)
        (twoLinks.accesses channel events) ∧
      (twoLinks.close last).card.2.armed = true ∧
      ∃ rest, twoLinks.closingAccesses last =
        ⟨.write (.setBufferReady false), false⟩ :: rest := by
  intro script channel events last
  have hsimulated : twoLinks.Simulated := ⟨_, rfl⟩
  have hopen : twoLinks.openChannel (script, {}) = .ok channel := openChannel_twoLinks _
  obtain ⟨hstopped, hclosed⟩ := stopped_disarmed twoLinks hsimulated _ rfl channel hopen events
  have hrefused := hstopped (by decide +kernel) (by decide +kernel)
  have hleft := hclosed (by decide +kernel)
  exact ⟨hsimulated, hopen, by decide +kernel, by decide +kernel, hrefused, by decide +kernel,
    hleft⟩

/-- Whatever was refused: a stopped channel takes no data, unless disabling that, or disarming
the buffer before it, was tried and failed since data taking was enabled. -/
theorem stopped_halted (endpoint : Endpoint (γ × SimulatedCard)) (hsimulated : endpoint.Simulated)
    (card : γ × SimulatedCard) (hidle : card.2.dataTaking = false)
    (channel : Channel (γ × SimulatedCard)) (hopen : endpoint.openChannel card = .ok channel)
    (events : List Event) :
    let last := endpoint.afterEvents channel events
    let accesses := endpoint.accesses channel events
    last.lifecycle = .stopped → last.card.2.dataTaking = true →
      RefusedSince .enableDataTaking .disableDataTaking accesses ∨
        RefusedSince .enableDataTaking (.setBufferReady false) accesses := by
  intro last accesses hstopped htaking
  obtain ⟨links, hopened⟩ := exists_opened hopen
  have hstart : Switch.dataTaking.Settled [.disableDataTaking, .setBufferReady false]
      (channel.withHistory []) := by
    apply Switch.Settled.of_off
    change channel.card.2.dataTaking = false
    rw [hopened.card]
    exact hidle
  have hlast := hstart.events Switch.dataTaking_governed hsimulated events
  obtain ⟨off, hoff, hrefused⟩ := hlast.off hstopped htaking
  simp only [List.mem_cons, List.not_mem_nil, or_false] at hoff
  rcases hoff with rfl | rfl
  · exact .inl hrefused
  · exact .inr hrefused

/-- A link of a simulated card, to which data flow in from the front end. -/
def frontEnd : Endpoint ScriptedCard where
  parameters :=
    { family := .cru, generatorEnabled := false, loopback := .none, linkCapacity? := some 2 }
  registers := ScriptedCard.registers
  buffer := LinearBuffer.toBuffer { size := 0x100000 }

def frontEndChannel (card : ScriptedCard) : Channel ScriptedCard where
  lifecycle := .stopped
  pipeline := .idle [⟨0⟩] 2 2
  debugModeSet := false
  card
  journal := { records := (Endpoint.openingRecords frontEnd.parameters [⟨0⟩]).toArray }

def stoppedTwice : List Event :=
  [.start, .stop, .stop].map fun operation => .call ⟨operation, frontEnd.buffer⟩

/-- Data taking goes on after a stop that could not disable it. -/
theorem stopped_halted_refused :
    let script : FaultScript := [⟨.disableDataTaking, 1, 1, .because "halt"⟩]
    let channel := frontEndChannel (script, {})
    let last := frontEnd.afterEvents channel stoppedTwice
    let accesses := frontEnd.accesses channel stoppedTwice
    frontEnd.Simulated ∧ frontEnd.openChannel (script, {}) = .ok channel ∧
      last.lifecycle = .stopped ∧ last.card.2.dataTaking = true ∧
      (RefusedSince .enableDataTaking .disableDataTaking accesses ∨
        RefusedSince .enableDataTaking (.setBufferReady false) accesses) := by
  intro script channel last accesses
  have hsimulated : frontEnd.Simulated := ⟨_, rfl⟩
  have hopen : frontEnd.openChannel (script, {}) = .ok channel := rfl
  have hhalted := stopped_halted frontEnd hsimulated _ rfl channel hopen stoppedTwice
  have hstopped : last.lifecycle = .stopped := by decide +kernel
  have htaking : last.card.2.dataTaking = true := by decide +kernel
  exact ⟨hsimulated, hopen, hstopped, htaking, hhalted hstopped htaking⟩

/-- Data taking goes on after a stop that could not disarm the buffer. It was not even tried to
disable it, and another stop does not make up for that. -/
theorem taking_data_after_stop :
    let script : FaultScript := [⟨.setBufferReady, 1, 1, .because "disarm"⟩]
    let channel := frontEndChannel (script, {})
    let last := frontEnd.afterEvents channel stoppedTwice
    let accesses := frontEnd.accesses channel stoppedTwice
    frontEnd.Simulated ∧ frontEnd.openChannel (script, {}) = .ok channel ∧
      last.lifecycle = .stopped ∧ last.card.2.dataTaking = true ∧
      ¬ RefusedSince .enableDataTaking .disableDataTaking accesses := by
  intro script channel last accesses
  have hopen : frontEnd.openChannel (script, {}) = .ok channel := rfl
  have hnever : ⟨.write .disableDataTaking, false⟩ ∉ accesses := by decide +kernel
  refine ⟨⟨_, rfl⟩, hopen, by decide +kernel, by decide +kernel, ?_⟩
  rintro ⟨before, after, hsplit, -, hrefused⟩
  apply hnever
  rw [hsplit]
  exact List.mem_append_right _ (List.mem_cons_of_mem _ hrefused)

end DmaReadout
