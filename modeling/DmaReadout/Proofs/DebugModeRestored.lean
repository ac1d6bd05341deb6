import DmaReadout.Proofs.AccessHistory
import DmaReadout.Proofs.CardSettings
import DmaReadout.Proofs.Routines
import DmaReadout.Proofs.Switches
import DmaReadout.Proofs.Turns

/-!
# The debug mode is restored

A channel switches the debug mode on at most once, when it finds it off, and remembers to switch
it off again when it is closed. In between, the debug mode stays on unless others switch it off.
-/

namespace DmaReadout

variable {γ : Type}

def Command.setsDebugMode : Command → Bool
  | .setDebugMode _ => true
  | _ => false

/-- The channel has left the debug mode alone, or found it off and switched it on. In the latter
case this is the only such command in the log. -/
inductive DebugModeKept (channel last : Channel (γ × SimulatedCard)) (log : List Command) : Prop
  | untouched (flag : last.debugModeSet = channel.debugModeSet)
      (mode : last.card.2.debugMode = channel.card.2.debugMode)
      (commands : log.filter Command.setsDebugMode = [])
  | switchedOn (off : channel.card.2.debugMode = false) (flag : last.debugModeSet = true)
      (on : last.card.2.debugMode = true)
      (commands : log.filter Command.setsDebugMode = [.setDebugMode true])

namespace DebugModeKept

variable {channel middle last : Channel (γ × SimulatedCard)} {log log' : List Command}

theorem trans (h : DebugModeKept channel middle log) (h' : DebugModeKept middle last log') :
    DebugModeKept channel last (log ++ log') := by
  cases h with
  | untouched flag mode commands =>
    cases h' with
    | untouched flag' mode' commands' =>
      refine .untouched (flag'.trans flag) (mode'.trans mode) ?_
      rw [List.filter_append, commands, commands']
      rfl
    | switchedOn off' flag' on' commands' =>
      refine .switchedOn (mode.symm.trans off') flag' on' ?_
      rw [List.filter_append, commands, commands']
      rfl
  | switchedOn off flag on commands =>
    cases h' with
    | untouched flag' mode' commands' =>
      refine .switchedOn off (flag'.trans flag) (mode'.trans on) ?_
      rw [List.filter_append, commands, commands']
      rfl
    | switchedOn off' flag' on' commands' =>
      -- It is not found off once the channel has switched it on.
      cases off'.symm.trans on

end DebugModeKept

/-- The card has logged more commands, and the debug mode was kept meanwhile. -/
def KeepsDebugMode (channel last : Channel (γ × SimulatedCard)) : Prop :=
  ∃ added : List Command,
    last.card.2.commands.toList = channel.card.2.commands.toList ++ added ∧
      DebugModeKept channel last added

lemma KeepsDebugMode.of_same {channel last : Channel (γ × SimulatedCard)}
    (hflag : last.debugModeSet = channel.debugModeSet)
    (hmode : last.card.2.debugMode = channel.card.2.debugMode)
    (hcommands : last.card.2.commands = channel.card.2.commands) :
    KeepsDebugMode channel last := by
  refine ⟨[], ?_, .untouched hflag hmode rfl⟩
  rw [hcommands, List.append_nil]

lemma KeepsDebugMode.of_card {channel : Channel (γ × SimulatedCard)} {card : γ × SimulatedCard}
    (failNext : Option String) (h : card.2 = { channel.card.2 with failNext }) :
    KeepsDebugMode channel { channel with card } := by
  apply KeepsDebugMode.of_same
  · rfl
  · dsimp only
    rw [h]
  · dsimp only
    rw [h]

lemma keepsDebugMode_lasting : Lasting (KeepsDebugMode (γ := γ)) where
  same hcard hflag _ := by
    apply KeepsDebugMode.of_same hflag
    · rw [hcard]
    · rw [hcard]
  trans := by
    rintro channel middle last ⟨added, hadded, hkept⟩ ⟨added', hadded', hkept'⟩
    refine ⟨added ++ added', ?_, hkept.trans hkept'⟩
    rw [hadded', hadded, List.append_assoc]

/-- Only one kind of access changes the debug mode, and is logged as doing so. -/
lemma SimulatedCard.after_keeps_debugMode (card : SimulatedCard) {access : Access}
    (hkind : access.kind ≠ .setDebugMode) :
    (card.after access).debugMode = card.debugMode ∧
      ∃ added : List Command,
        (card.after access).commands.toList = card.commands.toList ++ added ∧
          added.filter Command.setsDebugMode = [] := by
  constructor
  · exact Setting.debugMode.value_after card (by simpa [Setting.debugMode] using hkind)
  · cases access with
    | write command =>
      refine ⟨[command], card.commands_after_write command, ?_⟩
      cases command with
      | setDebugMode enabled => exact absurd rfl hkind
      | _ => rfl
    | superpageCount link =>
      obtain ⟨counters, hafter⟩ := card.exists_counters_after link
      rw [hafter]
      exact ⟨[], (List.append_nil _).symm, rfl⟩
    | _ => exact ⟨[], (List.append_nil _).symm, rfl⟩

namespace Endpoint.Simulated

variable {endpoint : Endpoint (γ × SimulatedCard)}

lemma perform_keepsDebugMode (h : endpoint.Simulated) {access : Access}
    (hkind : access.kind ≠ .setDebugMode) :
    Observes KeepsDebugMode (endpoint.perform access) := by
  intro channel
  rw [ensures_perform]
  intro reply card hperform
  rcases h.perform_cases hperform with ⟨_, failNext, _, hcard⟩ | ⟨_, hcard⟩
  · exact .of_card failNext hcard
  · obtain ⟨hmode, added, hadded, hcommands⟩ := channel.card.2.after_keeps_debugMode hkind
    refine ⟨added, ?_, .untouched rfl ?_ hcommands⟩
    · rw [hcard, hadded]
    · rw [hcard, hmode]

/-- Switching the debug mode on, where it was found off. -/
lemma switchOn_keepsDebugMode (h : endpoint.Simulated)
    {channel : Channel (γ × SimulatedCard)} (hoff : channel.card.2.debugMode = false) :
    Ensures (do
        endpoint.write (.setDebugMode true)
        modify fun channel => { channel with debugModeSet := true }) channel
      (fun _ last => KeepsDebugMode channel last) (fun _ last => KeepsDebugMode channel last) := by
  unfold write
  rw [ensures_bind, Endpoint.ensures_access]
  constructor
  · intro reply card hperform
    rcases h.perform_cases hperform with ⟨_, _, hreply, _⟩ | ⟨_, hcard⟩
    · cases hreply
    · rw [ensures_modify]
      refine ⟨[.setDebugMode true], ?_, .switchedOn hoff rfl ?_ rfl⟩
      · rw [hcard]
        exact channel.card.2.commands_after_write _
      · rw [hcard]
        rfl
  · intro fault card hperform
    rcases h.perform_cases hperform with ⟨_, failNext, _, hcard⟩ | ⟨hreply, _⟩
    · exact .of_card failNext hcard
    · cases hreply

lemma ensureDebugMode_keepsDebugMode (h : endpoint.Simulated) :
    Observes KeepsDebugMode endpoint.ensureDebugMode := by
  refine Observes.ite (fun _ channel => ?_) fun _ => keepsDebugMode_lasting.pure _
  rw [ensures_bind, Endpoint.ensures_access]
  constructor
  · intro enabled card hperform
    rcases h.perform_cases hperform with ⟨_, _, hreply, _⟩ | ⟨hreply, hcard⟩
    · cases hreply
    · cases hreply
      have hread : KeepsDebugMode channel { channel with card } :=
        .of_card channel.card.2.failNext hcard
      cases hmode : card.2.debugMode with
      | true =>
        simp only [SimulatedCard.reply, hmode]
        exact hread
      | false =>
        simp only [SimulatedCard.reply, hmode]
        apply (h.switchOn_keepsDebugMode hmode).mono
        · intro _ last hlast
          exact keepsDebugMode_lasting.trans hread hlast
        · intro e last hlast
          exact keepsDebugMode_lasting.trans hread hlast
  · intro fault card hperform
    rcases h.perform_cases hperform with ⟨_, failNext, _, hcard⟩ | ⟨hreply, _⟩
    · exact .of_card failNext hcard
    · cases hreply

lemma keepsDebugMode_routine (h : endpoint.Simulated) : endpoint.Routine KeepsDebugMode where
  toLasting := keepsDebugMode_lasting
  perform access hroutine := by
    apply h.perform_keepsDebugMode
    intro hkind
    rw [hkind] at hroutine
    cases hroutine
  ensureDebugMode := h.ensureDebugMode_keepsDebugMode
  resetWithLink level _ _ _ := by
    apply keepsDebugMode_lasting.bind
    · exact keepsDebugMode_lasting.access (h.perform_keepsDebugMode (by simp [Access.kind]))
    · intro _
      exact keepsDebugMode_lasting.access (h.perform_keepsDebugMode (by simp [Access.kind]))

/-- The whole run leaves the debug mode alone or switches it on once, unless others set it. -/
theorem debugMode_afterTurns (h : endpoint.Simulated)
    (hlevel : ResetLevel.check endpoint.parameters.family endpoint.startLevel
      endpoint.parameters.loopback = .ok ())
    {channel : Channel (γ × SimulatedCard)} {turns : List (Turn (γ × SimulatedCard))}
    (hothers : ∀ f, .change f ∈ turns → ∀ card : γ × SimulatedCard,
      (f card).2.debugMode = card.2.debugMode) :
    DebugModeKept channel (endpoint.afterTurns channel turns)
      (endpoint.written channel turns) := by
  induction turns generalizing channel with
  | nil => exact .untouched rfl rfl rfl
  | cons turn turns ih =>
    have hrest {next : Channel (γ × SimulatedCard)} :
        DebugModeKept next (endpoint.afterTurns next turns) (endpoint.written next turns) :=
      ih fun f hmem => hothers f (List.mem_cons_of_mem _ hmem)
    cases turn with
    | call call =>
      have hroutine := (h.during call).keepsDebugMode_routine
      have hobserves := hroutine.run (fun _ _ => .of_same rfl rfl rfl) hlevel call.operation
      obtain ⟨added, hadded, hkept⟩ := hobserves.lastState channel
      rw [← newCommands_of_append hadded] at hkept
      exact hkept.trans hrest
    | change f =>
      have hsame := hothers f List.mem_cons_self channel.card
      have hkept : DebugModeKept channel { channel with card := f channel.card } [] :=
        .untouched rfl hsame rfl
      exact hkept.trans hrest

end Endpoint.Simulated

/-- Closing leaves the debug mode alone, if the channel has not switched it on. Else it switches
it off, or tries that and fails. -/
inductive DebugModeClosed (channel last : Channel (RecordedCard γ)) (log : List Command) : Prop
  | untouched (flag : channel.debugModeSet = false)
      (mode : last.card.2.2.debugMode = channel.card.2.2.debugMode)
      (commands : log.filter Command.setsDebugMode = [])
  | switchedOff (flag : channel.debugModeSet = true) (off : last.card.2.2.debugMode = false)
      (commands : log.filter Command.setsDebugMode = [.setDebugMode false])
  | failed (flag : channel.debugModeSet = true)
      (past : ⟨.write (.setDebugMode false), false⟩ ∈ last.card.1)
      (commands : log.filter Command.setsDebugMode = [])

lemma DebugModeClosed.of_tried {channel tried last : Channel (RecordedCard γ)}
    {log log' : List Command} (hflag : tried.debugModeSet = channel.debugModeSet)
    (hmode : tried.card.2.2.debugMode = channel.card.2.2.debugMode)
    (hcommands : log.filter Command.setsDebugMode = [])
    (h : DebugModeClosed tried last log') : DebugModeClosed channel last (log ++ log') := by
  have hlog : (log ++ log').filter Command.setsDebugMode =
      log'.filter Command.setsDebugMode := by
    rw [List.filter_append, hcommands, List.nil_append]
  cases h with
  | untouched flag mode commands =>
    exact .untouched (hflag.symm.trans flag) (mode.trans hmode) (hlog.trans commands)
  | switchedOff flag off commands =>
    exact .switchedOff (hflag.symm.trans flag) off (hlog.trans commands)
  | failed flag past commands => exact .failed (hflag.symm.trans flag) past (hlog.trans commands)

namespace Endpoint.Simulated

variable {endpoint : Endpoint (γ × SimulatedCard)}

/-- The last step of closing, after the buffer was seen to. -/
lemma restore_closes (h : endpoint.Simulated) (channel : Channel (RecordedCard γ)) :
    Ensures (do
        if channel.debugModeSet then
          endpoint.recorded.attempt (.setDebugMode false) .debugModeOffFailed) channel
      (fun _ last => ∃ added : List Command,
        last.card.2.2.commands.toList = channel.card.2.2.commands.toList ++ added ∧
          DebugModeClosed channel last added)
      (fun _ _ => False) := by
  cases hflag : channel.debugModeSet with
  | false => exact ⟨[], (List.append_nil _).symm, .untouched hflag rfl rfl⟩
  | true =>
    rw [if_pos rfl]
    unfold attempt
    rw [ensures_bind, ensures_perform]
    intro reply card hperform
    rcases h.recorded_cases hperform with
      ⟨⟨fault, rfl⟩, hhistory, failNext, hcard⟩ | ⟨⟨answer, rfl⟩, hhistory, hcard⟩
    · have hpast : ⟨.write (.setDebugMode false), false⟩ ∈ card.1 := by
        rw [hhistory]
        exact List.mem_append_right _ (List.mem_singleton_self _)
      refine ⟨[], ?_, .failed hflag hpast rfl⟩
      dsimp only
      rw [hcard, List.append_nil]
    · refine ⟨[.setDebugMode false], ?_, .switchedOff hflag ?_ rfl⟩
      · dsimp only
        rw [hcard]
        exact channel.card.2.2.commands_after_write _
      · dsimp only
        rw [hcard]
        rfl

lemma disarm_keepsDebugMode (h : endpoint.Simulated) (channel : Channel (RecordedCard γ))
    {record : Fault → LogRecord} :
    Ensures (endpoint.recorded.attempt (.setBufferReady false) record) channel
      (fun _ tried => tried.debugModeSet = channel.debugModeSet ∧
        tried.card.2.2.debugMode = channel.card.2.2.debugMode ∧ ∃ added : List Command,
          tried.card.2.2.commands.toList = channel.card.2.2.commands.toList ++ added ∧
            added.filter Command.setsDebugMode = [])
      (fun _ _ => False) := by
  unfold attempt
  rw [ensures_bind, ensures_perform]
  intro reply card hperform
  rcases h.recorded_cases hperform with
    ⟨⟨fault, rfl⟩, -, failNext, hcard⟩ | ⟨⟨answer, rfl⟩, -, hcard⟩
  · have hcommands : card.2.2.commands.toList = channel.card.2.2.commands.toList ++ [] := by
      rw [hcard, List.append_nil]
    have hmode : card.2.2.debugMode = channel.card.2.2.debugMode := by
      rw [hcard]
    exact ⟨rfl, hmode, [], hcommands, rfl⟩
  · have hkind : (Access.write (.setBufferReady false)).kind ≠ .setDebugMode := nofun
    have hafter := channel.card.2.2.after_keeps_debugMode hkind
    rw [← hcard] at hafter
    exact ⟨rfl, hafter⟩

theorem shutDown_closes (h : endpoint.Simulated) (channel : Channel (RecordedCard γ)) :
    Ensures endpoint.recorded.shutDown channel
      (fun _ last => ∃ added : List Command,
        last.card.2.2.commands.toList = channel.card.2.2.commands.toList ++ added ∧
          DebugModeClosed channel last added)
      (fun _ _ => False) := by
  unfold shutDown
  rw [ensures_bind]
  apply (h.disarm_keepsDebugMode channel).mono
  · rintro _ tried ⟨hflag, hmode, added, hadded, hcommands⟩
    have hrestore {noted : Channel (RecordedCard γ)} (hcard : noted.card = tried.card)
        (hset : noted.debugModeSet = tried.debugModeSet) :
        Ensures (do
            if tried.debugModeSet then
              endpoint.recorded.attempt (.setDebugMode false) .debugModeOffFailed) noted
          (fun _ last => ∃ added : List Command,
            last.card.2.2.commands.toList = channel.card.2.2.commands.toList ++ added ∧
              DebugModeClosed channel last added)
          (fun _ _ => False) := by
      rw [← hcard] at hmode hadded
      rw [← hset] at hflag ⊢
      apply (h.restore_closes noted).mono
      · rintro _ last ⟨added', hadded', hlast⟩
        refine ⟨added ++ added', ?_, hlast.of_tried hflag hmode hcommands⟩
        rw [hadded', hadded, List.append_assoc]
      · intro e last hfalse
        exact hfalse
    rw [ensures_bind, ensures_get]
    extract_lets remaining restore
    by_cases hremaining : remaining > 0
    · rw [if_pos hremaining, ensures_bind, Channel.ensures_note]
      exact hrestore rfl rfl
    · rw [if_neg hremaining]
      exact hrestore rfl rfl
  · intro e tried hfalse
    exact hfalse

/-- What a recorder has seen of the closing tells what became of the debug mode. -/
lemma close_closes (h : endpoint.Simulated) (channel : Channel (γ × SimulatedCard)) :
    ∃ last : Channel (RecordedCard γ), last.card.1 = endpoint.closingAccesses channel ∧
      last.card.2 = (endpoint.close channel).card ∧
      DebugModeClosed (channel.withHistory []) last
        (newCommands channel (endpoint.close channel)) := by
  have hclosed : (endpoint.recorded.close (channel.withHistory [])).card.2 =
      (endpoint.close channel).card :=
    congrArg Channel.card (endpoint.close_recorded channel)
  refine ⟨endpoint.recorded.close (channel.withHistory []), rfl, hclosed, ?_⟩
  rw [close_eq] at hclosed ⊢
  rcases (h.shutDown_closes (channel.withHistory [])).outcome with
    ⟨_, -, added, hadded, hlast⟩ | ⟨e, -, hfalse⟩
  · rw [hclosed] at hadded
    rwa [newCommands_of_append hadded]
  · exact hfalse.elim

end Endpoint.Simulated

/-- What a session does about the debug mode, from the opening of the channel to its closing. -/
lemma DebugModeKept.closed {channel last : Channel (γ × SimulatedCard)}
    {closed : Channel (RecordedCard γ)} {log log' : List Command}
    (h : DebugModeKept channel last log) (hopened : channel.debugModeSet = false)
    (hclosed : DebugModeClosed (last.withHistory []) closed log') :
    (⟨.write (.setDebugMode false), false⟩ ∉ closed.card.1 →
        closed.card.2.2.debugMode = channel.card.2.debugMode) ∧
      ((log ++ log').filter Command.setsDebugMode = [] ∨ channel.card.2.debugMode = false ∧
        (log ++ log').filter Command.setsDebugMode <+:
          [.setDebugMode true, .setDebugMode false]) := by
  rw [List.filter_append]
  cases h with
  | untouched flag mode commands =>
    cases hclosed with
    | untouched flag' mode' commands' =>
      refine ⟨fun _ => mode'.trans mode, .inl ?_⟩
      rw [commands, commands', List.append_nil]
    | switchedOff flag' _ _ => cases (flag'.symm.trans flag).trans hopened
    | failed flag' _ _ => cases (flag'.symm.trans flag).trans hopened
  | switchedOn off flag _ commands =>
    cases hclosed with
    | untouched flag' _ _ => cases flag'.symm.trans flag
    | switchedOff _ off' commands' =>
      refine ⟨fun _ => off'.trans off.symm, .inr ⟨off, ?_⟩⟩
      rw [commands, commands']
      exact List.prefix_refl _
    | failed _ past commands' =>
      refine ⟨fun hpast => absurd past hpast, .inr ⟨off, ?_⟩⟩
      rw [commands, commands']
      exact List.prefix_append [_] [_]

/-- Whatever fails, and whatever others do to the card between the calls, apart from setting its
debug mode: unless switching it off fails in the closing, the card has at the end the debug mode
that it had when the channel was opened. The channel sets the debug mode only if it was off, and
then at most once on and once off. -/
theorem debug_mode_restored (endpoint : Endpoint (γ × SimulatedCard))
    (hsimulated : endpoint.Simulated) (card : γ × SimulatedCard)
    (channel : Channel (γ × SimulatedCard)) (hopen : endpoint.openChannel card = .ok channel)
    (turns : List (Turn (γ × SimulatedCard)))
    (hothers : ∀ f, .change f ∈ turns → ∀ card : γ × SimulatedCard,
      (f card).2.debugMode = card.2.debugMode) :
    let last := endpoint.afterTurns channel turns
    let log := endpoint.writtenUntilClosed channel turns
    (⟨.write (.setDebugMode false), false⟩ ∉ endpoint.closingAccesses last →
        (endpoint.close last).card.2.debugMode = card.2.debugMode) ∧
      (card.2.debugMode = true → ∀ enabled, .setDebugMode enabled ∉ log) ∧
      log.count (.setDebugMode true) ≤ 1 ∧ log.count (.setDebugMode false) ≤ 1 := by
  intro last log
  obtain ⟨links, hopened⟩ := exists_opened hopen
  have hkept : DebugModeKept channel last (endpoint.written channel turns) :=
    hsimulated.debugMode_afterTurns (Endpoint.check_startLevel hopen) hothers
  obtain ⟨closed, hhistory, hcard, hclosed⟩ := hsimulated.close_closes last
  obtain ⟨hmode, hcommands⟩ :=
    hkept.closed (Endpoint.fresh_of_openChannel hopen).1 hclosed
  rw [hhistory, hcard, hopened.card] at hmode
  rw [hopened.card] at hcommands
  change log.filter Command.setsDebugMode = [] ∨ card.2.debugMode = false ∧
    log.filter Command.setsDebugMode <+: _ at hcommands
  have hcount (enabled : Bool) : log.count (.setDebugMode enabled) ≤ 1 := by
    have hfilter : (log.filter Command.setsDebugMode).count (.setDebugMode enabled) =
        log.count (.setDebugMode enabled) := List.count_filter rfl
    rw [← hfilter]
    rcases hcommands with hnone | ⟨-, hprefix⟩
    · rw [hnone]
      exact Nat.zero_le _
    · have hle := hprefix.sublist.count_le (.setDebugMode enabled)
      have hone : [Command.setDebugMode true, .setDebugMode false].count
          (.setDebugMode enabled) = 1 := by
        cases enabled <;> decide
      rwa [hone] at hle
  refine ⟨hmode, fun hon enabled hmem => ?_, hcount true, hcount false⟩
  rcases hcommands with hnone | ⟨hoff, -⟩
  · exact List.filter_eq_nil_iff.1 hnone _ hmem rfl
  · cases hoff.symm.trans hon

/-- The first start fails before the debug mode is on, and the second switches it on. A reset and
a third start find it on. -/
theorem debug_mode_restored_twice :
    let script : FaultScript := [⟨.setDebugMode, 0, 1, .because "debug"⟩]
    let call operation := Turn.call ⟨operation, twoLinks.buffer⟩
    let turns : List (Turn ScriptedCard) :=
      [call .start, .control .completeAll, call .start, call .stop, call (.reset .internal),
        call .start]
    let channel := twoLinksChannel (script, {})
    let last := twoLinks.afterTurns channel turns
    let log := twoLinks.writtenUntilClosed channel turns
    twoLinks.Simulated ∧ twoLinks.openChannel (script, {}) = .ok channel ∧
      (∀ f, .change f ∈ turns → ∀ card : ScriptedCard, (f card).2.debugMode = card.2.debugMode) ∧
      ⟨.write (.setDebugMode false), false⟩ ∉ twoLinks.closingAccesses last ∧
      last.card.2.debugMode = true ∧ (twoLinks.close last).card.2.debugMode = false ∧
      log.filter Command.setsDebugMode = [.setDebugMode true, .setDebugMode false] := by
  intro script call turns channel
  have hsimulated : twoLinks.Simulated := ⟨_, rfl⟩
  have hopen := openChannel_twoLinks (script, {})
  have hothers : ∀ f, .change f ∈ turns → ∀ card : ScriptedCard,
      (f card).2.debugMode = card.2.debugMode := by
    intro f hf card
    simp only [turns, call, Turn.control, List.mem_cons, List.not_mem_nil, reduceCtorEq,
      Turn.change.injEq, false_or, or_false] at hf
    rw [hf]
    rfl
  have hclosing : ⟨.write (.setDebugMode false), false⟩ ∉
      twoLinks.closingAccesses (twoLinks.afterTurns channel turns) := by
    decide +kernel
  have hrestored :=
    (debug_mode_restored twoLinks hsimulated _ channel hopen turns hothers).1 hclosing
  have hoff : (twoLinks.close (twoLinks.afterTurns channel turns)).card.2.debugMode = false := by
    rw [hrestored]
  exact ⟨hsimulated, hopen, hothers, hclosing, by decide +kernel, hoff, by decide +kernel⟩

end DmaReadout
