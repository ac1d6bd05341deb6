import DmaReadout.Proofs.StartCommands

/-!
# The commands of a reset

A reset on request looks at the level, at the state of the channel and at the loopback mode, in
this order, before it accesses the card. The queues are not its business, whatever comes of it.
-/

namespace DmaReadout

variable {γ κ : Type}

/-- The commands of a reset, for a card that is in debug mode or not. -/
def Parameters.resetCommands (parameters : Parameters) (level : ResetLevel) (debugMode : Bool) :
    List Command :=
  parameters.debugCommands debugMode ++ [.resetGeneratorCounter, .resetCard] ++
    parameters.linkResetCommands level

lemma ResetLevel.check_error {family : CardFamily} {level : ResetLevel} {mode : LoopbackMode}
    {e : ReadoutError} (h : check family level mode = .error e) :
    e = .unsupportedConfiguration (.reset level mode) := by
  unfold check at h
  split at h
  · cases level <;> cases mode <;> cases h <;> rfl
  · cases h

namespace Endpoint

lemma commandsOf_resetPlan (endpoint : Endpoint κ) (level : ResetLevel) (enabled : Bool) :
    commandsOf (endpoint.resetPlan level enabled) =
      endpoint.parameters.resetCommands level enabled := by
  unfold resetPlan Parameters.resetCommands
  rw [commandsOf_append, commandsOf_write, commandsOf_write, commandsOf_debugPlan,
    commandsOf_linkResetPlan, List.append_assoc]
  rfl

lemma getLast?_resetPlan (endpoint : Endpoint κ) (level : ResetLevel) (enabled : Bool) :
    ∃ command, (endpoint.resetPlan level enabled).getLast? = some (.write command) := by
  unfold resetPlan linkResetPlan
  rw [List.getLast?_append]
  split <;> exact ⟨_, rfl⟩

variable {endpoint : Endpoint κ} {channel : Channel κ} {level : ResetLevel}

lemma reset_nothing : answer (endpoint.reset .nothing) channel = .ok () ∧
    (Operation.reset .nothing).accesses endpoint channel = [] :=
  ⟨rfl, rfl⟩

lemma reset_not_stopped (hlevel : level ≠ .nothing) (hlifecycle : channel.lifecycle ≠ .stopped) :
    answer (endpoint.reset level) channel = .error (.invalidState "reset" channel.lifecycle) ∧
      (Operation.reset level).accesses endpoint channel = [] := by
  have hrecorded : (channel.withHistory []).lifecycle ≠ .stopped := hlifecycle
  apply (Operation.reset level).refused_of_recorded
  change Ensures (endpoint.recorded.reset level) _ _ _
  unfold reset
  rw [if_pos hlevel, ensures_bind, ensures_get, if_neg hrecorded]
  exact ⟨rfl, rfl⟩

lemma reset_unsupported (hlevel : level ≠ .nothing) (hstopped : channel.lifecycle = .stopped)
    {e : ReadoutError} (hcheck : ResetLevel.check endpoint.parameters.family level
      endpoint.parameters.loopback = .error e) :
    answer (endpoint.reset level) channel = .error e ∧
      (Operation.reset level).accesses endpoint channel = [] := by
  have hrecorded : (channel.withHistory []).lifecycle = .stopped := hstopped
  apply (Operation.reset level).refused_of_recorded
  change Ensures (endpoint.recorded.reset level) _ _ _
  unfold reset
  rw [if_pos hlevel, ensures_bind, ensures_get, if_pos hrecorded, ensures_bind, ensures_ofExcept]
  constructor
  · intro _ hok
    cases hcheck.symm.trans hok
  · intro e' he'
    exact ⟨Except.error.inj (he'.symm.trans hcheck), rfl⟩

/-- A reset that is allowed carries out its plan, or breaks off. -/
theorem reset_course {enabled : Bool} (hlevel : level ≠ .nothing)
    (hstopped : channel.lifecycle = .stopped) (hcheck : ResetLevel.check endpoint.parameters.family
      level endpoint.parameters.loopback = .ok ())
    (hreads : endpoint.registers.ReadsDebugMode channel.card enabled) :
    let plan := endpoint.resetPlan level enabled
    let made := (Operation.reset level).accesses endpoint channel
    answer (endpoint.reset level) channel = .ok () ∧ made = granted plan ∨
      ∃ done access fault last, answer (endpoint.reset level) channel = .error (.hardware fault) ∧
        endpoint.registers.BreaksOff plan done access fault channel.card last ∧
        made = granted done ++ [⟨access, false⟩] := by
  intro plan made
  have hrecorded : (channel.withHistory []).lifecycle = .stopped := hstopped
  have hreset : Ensures ((Operation.reset level).run endpoint.recorded) (channel.withHistory [])
      (fun _ last => last.card.1 = granted plan)
      (fun e last => ∃ done access fault card, e = .hardware fault ∧
        endpoint.registers.BreaksOff plan done access fault channel.card card ∧
        last.card.1 = granted done ++ [⟨access, false⟩]) := by
    change Ensures (endpoint.recorded.reset level) _ _ _
    unfold reset
    rw [if_pos hlevel, ensures_bind, ensures_get, if_pos hrecorded, ensures_bind,
      ensures_ofExcept]
    constructor
    · intro _ _
      rw [Channel.ensures_transition]
      have hfollows : endpoint.recorded.Follows plan (endpoint.recorded.resetCard level)
          { channel.withHistory [] with lifecycle := .resetting } :=
        follows_resetCard hlevel hreads.recorded
      apply hfollows.traced.mono
      · rintro _ last ⟨-, hmade⟩
        exact hmade
      · rintro e last ⟨done, access, fault, hbreaks, rfl, hmade⟩
        exact ⟨done, access, fault, _, rfl, hbreaks, hmade⟩
    · intro e he
      cases hcheck.symm.trans he
  rcases Operation.answered_of_recorded hreset with
    ⟨_, hanswer, hmade⟩ | ⟨_, hanswer, done, access, fault, card, rfl, hbreaks, hmade⟩
  · exact .inl ⟨hanswer, hmade⟩
  · exact .inr ⟨done, access, fault, card, hanswer, hbreaks, hmade⟩

end Endpoint

/-- Whatever is asked and whichever accesses fail, a reset leaves the state of the channel and its
queues alone. Without a level it does nothing; a channel that is not stopped refuses it, and so
does a stopped one if the loopback mode forbids it, all without an access. Otherwise it ends well
exactly when no access fails, and has logged all its commands then, or it has logged a part of them
and reports the access that failed. -/
theorem reset_logs_commands (endpoint : Endpoint (γ × SimulatedCard))
    (hsimulated : endpoint.Simulated) (channel : Channel (γ × SimulatedCard))
    (level : ResetLevel) :
    let parameters := endpoint.parameters
    let log := channel.card.2.commands.toList
    let made := (Operation.reset level).accesses endpoint channel
    let outcome := answer (endpoint.reset level) channel
    let last := lastState (endpoint.reset level) channel
    last.lifecycle = channel.lifecycle ∧ last.pipeline = channel.pipeline ∧
    if level = .nothing then outcome = .ok () ∧ made = []
    else if channel.lifecycle ≠ .stopped then
      outcome = .error (.invalidState "reset" channel.lifecycle) ∧ made = []
    else
      match ResetLevel.check parameters.family level parameters.loopback with
      | .error _ =>
        outcome = .error (.unsupportedConfiguration (.reset level parameters.loopback)) ∧ made = []
      | .ok () =>
        let commands := parameters.resetCommands level channel.card.2.debugMode
        (outcome = .ok () ↔ ∀ past ∈ made, past.succeeded = true) ∧
        (outcome = .ok () → last.card.2.commands.toList = log ++ commands) ∧
        ∀ e, outcome = .error e → ∃ written,
          endpoint.registers.FailsAmid commands channel.card made written e ∧
          last.card.2.commands.toList = log ++ written := by
  intro parameters log made outcome last
  have hstanding : last.standing = channel.standing :=
    (Endpoint.keeps_reset endpoint level channel).of_lastState
  refine ⟨Channel.lifecycle_of_standing hstanding, Channel.pipeline_of_standing hstanding, ?_⟩
  by_cases hlevel : level = .nothing
  · subst hlevel
    rw [if_pos rfl]
    exact Endpoint.reset_nothing
  rw [if_neg hlevel]
  by_cases hlifecycle : channel.lifecycle ≠ .stopped
  · rw [if_pos hlifecycle]
    exact Endpoint.reset_not_stopped hlevel hlifecycle
  rw [if_neg hlifecycle]
  have hstopped : channel.lifecycle = .stopped := Decidable.not_not.1 hlifecycle
  split
  next e hcheck =>
    have hunsupported := Endpoint.reset_unsupported hlevel hstopped hcheck
    rwa [ResetLevel.check_error hcheck] at hunsupported
  next hcheck =>
    intro commands
    have hcommands : commandsOf (endpoint.resetPlan level channel.card.2.debugMode) = commands :=
      endpoint.commandsOf_resetPlan level _
    have hcourse := Endpoint.reset_course hlevel hstopped hcheck
      (hsimulated.readsDebugMode channel.card)
    rcases hcourse with ⟨hanswer, hmade⟩ |
      ⟨done, access, fault, card, hanswer, hbreaks, hmade⟩
    · have hlog := hsimulated.commands_of_granted hmade
      rw [hcommands] at hlog
      exact outcome_of_granted hanswer hmade hlog
    · obtain ⟨command, hlast⟩ := endpoint.getLast?_resetPlan level _
      have hamid := hbreaks.amid hlast
      have hlog := hsimulated.commands_of_broken hmade
      rw [List.flatMap_nil, List.append_nil] at hlog
      rw [hcommands, ← hmade] at hamid
      exact outcome_of_broken hanswer hmade ⟨_, hamid, hlog⟩

/-- The far end of the optical link cannot be reset. Both resets before it are logged. -/
theorem reset_logs_commands_without_siu :
    let parameters : Parameters :=
      { family := .crorc, generatorEnabled := false, loopback := .none }
    let endpoint := { twoLinks with parameters }
    let script : FaultScript := [⟨.resetExternal, 0, 1, .because "siu"⟩]
    let channel := twoLinksChannel (script, {})
    let commands := [.resetGeneratorCounter, .resetCard, .resetExternal true]
    let last := lastState (endpoint.reset .internalDiuSiu) channel
    endpoint.Simulated ∧
      answer (endpoint.reset .internalDiuSiu) channel = .error (.hardware (.because "siu")) ∧
      (∃ written, endpoint.registers.FailsAmid commands channel.card
          ((Operation.reset .internalDiuSiu).accesses endpoint channel) written
          (.hardware (.because "siu")) ∧
        last.card.2.commands.toList = written) ∧
      last.card.2.commands.toList = [.resetGeneratorCounter, .resetCard] := by
  intro parameters endpoint script channel commands last
  have hsimulated : endpoint.Simulated := ⟨_, rfl⟩
  have hanswer : answer (endpoint.reset .internalDiuSiu) channel =
      .error (.hardware (.because "siu")) := rfl
  have hlogs := reset_logs_commands endpoint hsimulated channel .internalDiuSiu
  exact ⟨hsimulated, hanswer, hlogs.2.2.2.2 _ hanswer, by decide +kernel⟩

end DmaReadout
