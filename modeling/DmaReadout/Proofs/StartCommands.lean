import DmaReadout.Proofs.StartCourse

/-!
# The commands of a start

What a simulated card logs in a start is known from the parameters and its debug mode: a fixed
row of commands, or a part of it, and then what was obeyed of the attempts to take the arming of
the buffer back. The error is always that of the first access that failed.
-/

namespace DmaReadout

variable {γ κ : Type}

namespace Parameters

variable (parameters : Parameters)

def patternCommands : List Command :=
  if parameters.generatorEnabled then
    [.setGeneratorPattern parameters.generatorPattern parameters.dataSize parameters.randomSize]
  else []

/-- Internal loopback of the multi-link family goes through the debug mode. -/
def debugCommands (debugMode : Bool) : List Command :=
  if parameters.family = .cru ∧ parameters.loopback = .internal ∧ debugMode = false then
    [.setDebugMode true]
  else []

/-- Only the single-link family has link ends to reset. -/
def linkResetCommands (level : ResetLevel) : List Command :=
  if parameters.family = .crorc ∧ level.includesExternal = true then
    [.resetExternal level.includesSiu]
  else []

/-- The commands of a start, for a card that is in debug mode or not. -/
def startCommands (source : DataSource) (debugMode : Bool) : List Command :=
  parameters.patternCommands ++ parameters.debugCommands debugMode ++
  [.setDataSource source, .resetGeneratorCounter, .resetCard] ++
  parameters.linkResetCommands parameters.resetLevel ++
  [.setBufferReady true, .disableDataTaking] ++
  if source = .link then [.enableDataTaking] else []

end Parameters

namespace Endpoint

section Plans

variable (endpoint : Endpoint κ) (source : DataSource) (enabled : Bool)

lemma commandsOf_patternPlan :
    commandsOf endpoint.patternPlan = endpoint.parameters.patternCommands := by
  unfold patternPlan Parameters.patternCommands
  split <;> rfl

lemma commandsOf_debugPlan :
    commandsOf (endpoint.debugPlan enabled) = endpoint.parameters.debugCommands enabled := by
  unfold debugPlan needsDebugMode Parameters.debugCommands
  cases enabled <;> grind [commandsOf, Access.logged]

lemma commandsOf_linkResetPlan (level : ResetLevel) :
    commandsOf (endpoint.linkResetPlan level) =
      endpoint.parameters.linkResetCommands level := by
  unfold linkResetPlan Parameters.linkResetCommands
  grind [commandsOf, Access.logged]

/-- The reset of a start leaves no link end out. -/
lemma linkResetCommands_startLevel :
    endpoint.parameters.linkResetCommands endpoint.startLevel =
      endpoint.parameters.linkResetCommands endpoint.parameters.resetLevel := by
  unfold startLevel
  split
  next hlevel =>
    rw [hlevel]
    rfl
  next => rfl

lemma commandsOf_armPlan : commandsOf (armPlan source) =
    [.setBufferReady true, .disableDataTaking] ++
      if source = .link then [.enableDataTaking] else [] := by
  cases source <;> rfl

lemma commandsOf_startPlan :
    commandsOf (endpoint.startPlan source enabled (endpoint.needsDebugMode || enabled)) =
      endpoint.parameters.startCommands source enabled := by
  have hlater : commandsOf (endpoint.debugPlan (endpoint.needsDebugMode || enabled)) = [] := by
    unfold debugPlan
    cases endpoint.needsDebugMode <;> rfl
  unfold startPlan preparePlan selectPlan resetPlan Parameters.startCommands
  simp only [commandsOf_append, commandsOf_write, commandsOf_patternPlan,
    commandsOf_debugPlan endpoint enabled, hlater, commandsOf_linkResetPlan,
    linkResetCommands_startLevel, commandsOf_armPlan, List.append_assoc, List.cons_append,
    List.nil_append]

lemma getLast?_startPlan (later : Bool) :
    ∃ command, (endpoint.startPlan source enabled later).getLast? = some (.write command) := by
  unfold startPlan
  rw [List.getLast?_append]
  cases source <;> exact ⟨_, rfl⟩

end Plans

namespace Simulated

variable {endpoint : Endpoint (γ × SimulatedCard)}

/-- When the debug mode is read again, it is on or not needed. -/
lemma startReads (h : endpoint.Simulated) (source : DataSource) (card : γ × SimulatedCard) :
    endpoint.StartReads source card card.2.debugMode
      (endpoint.needsDebugMode || card.2.debugMode) where
  first last hlast := by
    have hmode : last.2.debugMode = card.2.debugMode := by
      rw [h.of_grants hlast, patternPlan]
      split <;> rfl
    rw [← hmode]
    exact h.readsDebugMode last
  second last hlast := by
    have hmode : last.2.debugMode = (endpoint.needsDebugMode || card.2.debugMode) := by
      rw [h.of_grants hlast, selectPlan, patternPlan, debugPlan]
      cases endpoint.needsDebugMode <;> cases hdebug : card.2.debugMode <;>
        split <;> simp [SimulatedCard.after, SimulatedCard.obey, hdebug]
    rw [← hmode]
    exact h.readsDebugMode last

end Simulated

end Endpoint

/-- Whatever the card was set to, and whichever accesses fail: a start of a stopped channel without
a source logs nothing. Otherwise it ends well exactly when no access fails, and has logged all its
commands then. If an access fails, it has logged a part of them, and once the buffer was armed,
what succeeds of disarming it and of switching data taking off; both are tried. -/
theorem start_logs_commands (endpoint : Endpoint (γ × SimulatedCard))
    (hsimulated : endpoint.Simulated) (channel : Channel (γ × SimulatedCard))
    (hstopped : channel.lifecycle = .stopped) :
    let parameters := endpoint.parameters
    let log := channel.card.2.commands.toList
    let made := Operation.start.accesses endpoint channel
    let last := lastState endpoint.start channel
    match DataSource.resolve parameters.family parameters.generatorEnabled parameters.loopback with
    | .error e =>
      answer endpoint.start channel = .error e ∧ made = [] ∧ last.card.2.commands.toList = log
    | .ok source =>
      let commands := parameters.startCommands source channel.card.2.debugMode
      (answer endpoint.start channel = .ok () ↔ ∀ past ∈ made, past.succeeded = true) ∧
      (answer endpoint.start channel = .ok () →
        last.card.2.commands.toList = log ++ commands) ∧
      ∀ e, answer endpoint.start channel = .error e → ∃ tried written rest,
        endpoint.registers.FailsAmid commands channel.card tried written e ∧
        made = tried ++ rest ∧ TakesBack written rest ∧
        last.card.2.commands.toList = log ++ written ++ rest.flatMap PastAccess.logged := by
  intro parameters log made last
  split
  next e hresolve =>
    obtain ⟨hanswer, hmade, -⟩ := Endpoint.start_unresolved hstopped hresolve
    have hlog := hsimulated.commands_run .start channel
    rw [hmade, List.flatMap_nil, List.append_nil] at hlog
    exact ⟨hanswer, hmade, hlog⟩
  next source hresolve =>
    intro commands
    have hcommands : commandsOf (endpoint.startPlan source channel.card.2.debugMode
        (endpoint.needsDebugMode || channel.card.2.debugMode)) = commands :=
      endpoint.commandsOf_startPlan source _
    rcases Endpoint.start_course hstopped hresolve (hsimulated.startReads source channel.card) with
      ⟨hanswer, hmade, -⟩ | ⟨e, access, hanswer, habandons, -⟩
    · have hlog := hsimulated.commands_of_granted hmade
      rw [hcommands] at hlog
      exact outcome_of_granted hanswer hmade hlog
    · obtain ⟨done, fault, stopped, rest, hbreaks, htaken, hmade, rfl⟩ := habandons
      obtain ⟨command, hlast⟩ := endpoint.getLast?_startPlan source _ _
      have hamid := hbreaks.amid hlast
      rw [hcommands] at hamid
      have hlog := hsimulated.commands_of_broken hmade
      refine outcome_of_broken hanswer hmade ⟨_, _, rest, hamid, ?_, htaken, hlog⟩
      rw [List.append_assoc, List.singleton_append]
      exact hmade

/-- Data taking cannot be switched off, neither in the start nor when that is taken back. The buffer
is disarmed, and the first failure is reported. -/
theorem start_logs_commands_disarmed :
    let script : FaultScript :=
      [⟨.disableDataTaking, 0, 1, .because "halt"⟩, ⟨.disableDataTaking, 0, 1, .because "again"⟩]
    let channel := twoLinksChannel (script, {})
    let commands := twoLinks.parameters.startCommands .internal false
    let last := lastState twoLinks.start channel
    twoLinks.Simulated ∧ channel.lifecycle = .stopped ∧
      answer twoLinks.start channel = .error (.hardware (.because "halt")) ∧
      (∃ tried written rest, twoLinks.registers.FailsAmid commands channel.card tried written
          (.hardware (.because "halt")) ∧
        Operation.start.accesses twoLinks channel = tried ++ rest ∧ TakesBack written rest ∧
        last.card.2.commands.toList = written ++ rest.flatMap PastAccess.logged) ∧
      last.card.2.commands.toList = commands.dropLast ++ [.setBufferReady false] := by
  intro script channel commands last
  have hsimulated : twoLinks.Simulated := ⟨_, rfl⟩
  have hanswer : answer twoLinks.start channel = .error (.hardware (.because "halt")) := rfl
  have hlogs := start_logs_commands twoLinks hsimulated channel rfl
  exact ⟨hsimulated, rfl, hanswer, hlogs.2.2 _ hanswer, by decide +kernel⟩

end DmaReadout
