import DmaReadout.Proofs.DescriptorSafety

/-!
# A running channel is configured

A start that succeeds has selected the data source, armed the buffer, let data in if they come
from the front end, and switched the debug mode on where that is needed. None of this changes
while the channel runs, whatever is asked of it and whichever accesses fail.
-/

namespace DmaReadout

variable {γ : Type}

/-- The card is set up for data from the source. -/
structure Configured (parameters : Parameters) (source : DataSource) (card : SimulatedCard) :
    Prop where
  resolved : DataSource.resolve parameters.family parameters.generatorEnabled
    parameters.loopback = .ok source
  armed : card.armed = true
  dataSource : card.dataSource = some source
  dataTaking_iff : card.dataTaking = true ↔ source = .link
  debugMode : parameters.family = .cru → parameters.loopback = .internal → card.debugMode = true

lemma Configured.of_settings {parameters : Parameters} {source : DataSource}
    {card card' : SimulatedCard} (h : Configured parameters source card)
    (hsettings : ∀ {β : Type} (setting : Setting β),
      (∀ kind ∈ Access.Kind.transferring, kind ∉ setting.kinds) →
        setting.value card' = setting.value card) : Configured parameters source card' where
  resolved := h.resolved
  armed := (hsettings Setting.armed (by decide)).trans h.armed
  dataSource := (hsettings Setting.dataSource (by decide)).trans h.dataSource
  dataTaking_iff := by
    have hsame : card'.dataTaking = card.dataTaking := hsettings Setting.dataTaking (by decide)
    rw [hsame]
    exact h.dataTaking_iff
  debugMode hfamily hloopback :=
    (hsettings Setting.debugMode (by decide)).trans (h.debugMode hfamily hloopback)

lemma DataSource.isExternal_iff {source : DataSource} :
    source.isExternal = true ↔ source = .link := by
  cases source <;> decide

namespace Endpoint.Simulated

variable {endpoint : Endpoint (γ × SimulatedCard)} {channel : Channel (γ × SimulatedCard)}

lemma ensureDebugMode_on (h : endpoint.Simulated) :
    Ensures endpoint.ensureDebugMode channel
      (fun _ last => endpoint.needsDebugMode = true → last.card.2.debugMode = true)
      (fun _ _ => True) := by
  unfold ensureDebugMode
  by_cases hneeds : endpoint.needsDebugMode = true
  · rw [if_pos hneeds, ensures_bind]
    apply h.ensures_access
    · intro card hcard
      dsimp only [SimulatedCard.reply]
      by_cases henabled : card.2.debugMode = true
      · rw [if_pos henabled]
        intro _
        exact henabled
      · rw [if_neg henabled, ensures_bind]
        apply h.ensures_access
        · intro card' hcard' _
          change card'.2.debugMode = true
          rw [hcard']
          rfl
        · intro fault card' _
          trivial
    · intro fault card _
      trivial
  · rw [if_neg hneeds]
    intro hneeded
    exact absurd hneeded hneeds

/-- A reset sees to the debug mode before it writes, and not again. -/
lemma resetCard_debugMode (h : endpoint.Simulated) {level : ResetLevel}
    (hlevel : level ≠ .nothing) :
    Ensures (endpoint.resetCard level) channel
      (fun _ last => endpoint.needsDebugMode = true → last.card.2.debugMode = true)
      (fun _ _ => True) := by
  unfold resetCard
  rw [if_pos hlevel]
  extract_lets family finish reset
  have hfinish (r : Unit) : endpoint.Confined [.resetExternal] (finish r) := .note _
  have hwrites : endpoint.Confined [.resetGeneratorCounter, .resetCard, .resetExternal] (do
      endpoint.write .resetGeneratorCounter
      endpoint.write .resetCard
      if level.includesExternal && family = .crorc then
        endpoint.write (.resetExternal level.includesSiu) >>= finish
      else finish ()) := by
    apply (confined_access .resetGeneratorCounter rfl (by decide)).bind
    intro _
    apply (confined_access .resetCard rfl (by decide)).bind
    intro _
    apply Confined.ite
    · apply (confined_access .resetExternal rfl (by decide)).bind
      exact fun r => (hfinish r).mono (by decide)
    · exact (hfinish ()).mono (by decide)
  have hreset (channel : Channel (γ × SimulatedCard)) :
      Ensures (reset ()) channel
        (fun _ last => endpoint.needsDebugMode = true → last.card.2.debugMode = true)
        (fun _ _ => True) := by
    apply ensures_bind.2
    apply h.ensureDebugMode_on.mono
    · intro _ enabled hon
      apply (hwrites enabled).mono
      · intro _ last hlast hneeds
        exact (Setting.debugMode.value_of_reaches h hlast (by decide)).trans (hon hneeds)
      · intro e last _
        trivial
    · intro e last _
      trivial
  by_cases hexternal : (level.includesExternal && decide (family ≠ .crorc)) = true
  · rw [if_pos hexternal]
    apply Ensures.skip
    intro _ noted
    exact hreset noted
  · rw [if_neg hexternal]
    exact hreset channel

lemma prepare_configures (h : endpoint.Simulated) (source : DataSource) :
    Ensures (endpoint.prepare source) channel
      (fun _ last => last.card.2.dataSource = some source ∧
        (endpoint.needsDebugMode = true → last.card.2.debugMode = true))
      (fun _ _ => True) := by
  have hlevel := endpoint.startLevel_ne_nothing
  unfold prepare
  extract_lets parameters configure
  have hconfigure (channel : Channel (γ × SimulatedCard)) :
      Ensures (configure ()) channel
        (fun _ last => last.card.2.dataSource = some source ∧
          (endpoint.needsDebugMode = true → last.card.2.debugMode = true))
        (fun _ _ => True) := by
    apply Ensures.skip
    intro _ enabled
    apply ensures_bind.2
    apply h.ensures_access
    · intro card hcard
      have hselected : card.2.dataSource = some source := by
        rw [hcard]
        rfl
      rw [ensures_bind, Channel.ensures_note, ensures_bind]
      apply ensures_modify.2
      rw [ensures_bind]
      apply ((confined_resetCard endpoint _ _).and (h.resetCard_debugMode hlevel)).mono
      · rintro _ last ⟨hlast, hdebug⟩
        have hkept := Setting.dataSource.value_of_reaches h hlast (by decide)
        exact ⟨hkept.trans hselected, hdebug⟩
      · intro e last _
        trivial
    · intro fault card _
      trivial
  by_cases hgenerator : parameters.generatorEnabled = true
  · rw [if_pos hgenerator]
    apply Ensures.skip
    intro _ written
    exact hconfigure written
  · rw [if_neg hgenerator]
    exact hconfigure channel

lemma beginDataTaking_takes (h : endpoint.Simulated) (source : DataSource) :
    Ensures (endpoint.beginDataTaking source) channel
      (fun _ last => last.card.2.dataTaking = source.isExternal) (fun _ _ => True) := by
  unfold beginDataTaking
  rw [ensures_bind]
  apply h.ensures_access
  · intro card hcard
    by_cases hexternal : source.isExternal = true
    · rw [if_pos hexternal]
      apply h.ensures_access
      · intro card' hcard'
        change card'.2.dataTaking = _
        rw [hcard', hexternal]
        rfl
      · intro fault card' _
        trivial
    · rw [if_neg hexternal]
      change card.2.dataTaking = _
      rw [hcard, Bool.not_eq_true _ |>.mp hexternal]
      rfl
  · intro fault card _
    trivial

lemma arm_takes (h : endpoint.Simulated) (source : DataSource) :
    Ensures (endpoint.arm source) channel
      (fun _ last => last.card.2.dataTaking = source.isExternal) (fun _ _ => True) := by
  unfold arm
  apply Ensures.skip
  intro _ armed
  rw [ensures_bind, ensures_tryCatch]
  apply (h.beginDataTaking_takes source).mono
  · intro _ begun hbegun
    exact hbegun
  · intro e failed _
    apply Ensures.skip
    intro _ _
    trivial

/-- A start that succeeds leaves the card set up, whatever it was set to before. -/
theorem configureAndArm_configures (h : endpoint.Simulated) :
    Ensures endpoint.configureAndArm channel
      (fun _ last => ∃ source, Configured endpoint.parameters source last.card.2)
      (fun _ _ => True) := by
  rw [configureAndArm_eq, ensures_bind, ensures_ofExcept]
  constructor
  · intro source hresolved
    rw [ensures_bind]
    apply (h.prepare_configures source).mono
    · rintro _ prepared ⟨hsource, hdebug⟩
      rw [ensures_bind, ensures_modify]
      apply ((confined_arm endpoint source _).and
        ((h.arm_arms source).and (h.arm_takes source))).mono
      · rintro _ last ⟨hlast, harmed, htaking⟩
        have hsource' := Setting.dataSource.value_of_reaches h hlast (by decide)
        have hdebug' := Setting.debugMode.value_of_reaches h hlast (by decide)
        refine ⟨source, hresolved, harmed, hsource'.trans hsource, ?_, ?_⟩
        · rw [htaking]
          exact DataSource.isExternal_iff
        · intro hfamily hloopback
          have hneeds : endpoint.needsDebugMode = true := by
            simp [needsDebugMode, hfamily, hloopback]
          exact hdebug'.trans (hdebug hneeds)
      · intro e last _
        trivial
    · intro e last _
      trivial
  · intro e _
    trivial

lemma setUp_configured (h : endpoint.Simulated) :
    SetUp endpoint fun card => ∃ source, Configured endpoint.parameters source card where
  starts channel := h.configureAndArm_configures
  after card access hkind := by
    rintro ⟨source, hconfigured⟩
    exact ⟨source, hconfigured.of_settings fun setting hkinds =>
      setting.value_after card (hkinds _ hkind)⟩
  refused card failNext := by
    rintro ⟨source, hconfigured⟩
    exact ⟨source, hconfigured.of_settings fun setting _ =>
      setting.value_refused card failNext⟩
  control card control := by
    rintro ⟨source, hconfigured⟩
    exact ⟨source, hconfigured.of_settings fun setting _ =>
      setting.value_control card control⟩

end Endpoint.Simulated

/-- Whatever the card was set to when the channel was opened, and whichever accesses were refused
since: whenever the channel runs, its parameters have a data source, and the card is set up for
it. -/
theorem running_configured (endpoint : Endpoint (γ × SimulatedCard))
    (hsimulated : endpoint.Simulated) (card : γ × SimulatedCard)
    (channel : Channel (γ × SimulatedCard)) (hopen : endpoint.openChannel card = .ok channel)
    (events : List Event) :
    let last := endpoint.afterEvents channel events
    last.lifecycle = .running → ∃ source, Configured endpoint.parameters source last.card.2 := by
  obtain ⟨links, hopened⟩ := exists_opened hopen
  have hstart :
      WhileRunning (fun card => ∃ source, Configured endpoint.parameters source card) channel := by
    intro hrunning
    rw [hopened.lifecycle] at hrunning
    cases hrunning
  exact hstart.events hsimulated.setUp_configured hsimulated events

/-- A card that was left taking data from elsewhere, and refuses the debug mode once. -/
def strayCard : ScriptedCard :=
  ([⟨.setDebugMode, 0, 1, .because "debug"⟩],
    { dataSource := some .siu, dataTaking := true, completion := .manual })

/-- The second start succeeds; then a reset is refused, and an injected error fails. -/
def configuredRun : List Event :=
  let call operation := Event.call ⟨operation, twoLinks.buffer⟩
  [call .start, call .start, call (.push ⟨0, 8192, 0, false, 0⟩), call (.reset .internal),
    .control (.failNext "inject"), call .injectError]

theorem running_configured_stray :
    let last := twoLinks.afterEvents (twoLinksChannel strayCard) configuredRun
    twoLinks.Simulated ∧ twoLinks.openChannel strayCard = .ok (twoLinksChannel strayCard) ∧
      last.lifecycle = .running ∧ Configured twoLinks.parameters .internal last.card.2 := by
  intro last
  have hsimulated : twoLinks.Simulated := ⟨_, rfl⟩
  have hopen := openChannel_twoLinks strayCard
  have hrunning : last.lifecycle = .running := by decide +kernel
  obtain ⟨source, hconfigured⟩ :=
    running_configured twoLinks hsimulated strayCard _ hopen configuredRun hrunning
  have hsource : source = .internal := Except.ok.inj hconfigured.resolved.symm
  rw [hsource] at hconfigured
  exact ⟨hsimulated, hopen, hrunning, hconfigured⟩

end DmaReadout
