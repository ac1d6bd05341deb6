import DmaReadout.Proofs.CardSettings
import DmaReadout.Proofs.LifecycleRules
import DmaReadout.Proofs.Routines
import DmaReadout.Proofs.Turns

/-!
# Resets are safe and legal

Link ends are reset only where the loopback mode allows it, and never without the card. While a
channel runs, nothing is reset at all. The legality of an external reset is checked when the
channel is opened, for the resets in a start, and in every reset on request.
-/

namespace DmaReadout

variable {γ : Type}

def Command.isReset : Command → Bool
  | .resetGeneratorCounter | .resetCard | .resetExternal _ => true
  | _ => false

lemma Command.isReset_of_kind {kinds : List Access.Kind} {command : Command}
    (hkinds : ∀ kind ∈ [.resetGeneratorCounter, .resetCard, .resetExternal], kind ∉ kinds)
    (hkind : (Access.write command).kind ∈ kinds) : command.isReset = false := by
  cases command with
  | resetGeneratorCounter => exact absurd hkind (hkinds .resetGeneratorCounter (by decide))
  | resetCard => exact absurd hkind (hkinds .resetCard (by decide))
  | resetExternal includeSiu => exact absurd hkind (hkinds .resetExternal (by decide))
  | _ => rfl

/-- The ends of the optical link may be reset: the near one, or the far one as well. -/
def Parameters.AllowsExternalReset (parameters : Parameters) (includeSiu : Bool) : Prop :=
  parameters.family = .crorc ∧
    (parameters.loopback = .none ∨ parameters.loopback = .siu ∨
      parameters.loopback = .diu ∧ includeSiu = false)

/-- Every external reset in the log comes right after a reset of the card, and is allowed. -/
def ResetsInOrder (parameters : Parameters) (log : List Command) : Prop :=
  ∀ earlier includeSiu later, log = earlier ++ .resetExternal includeSiu :: later →
    earlier.getLast? = some .resetCard ∧ parameters.AllowsExternalReset includeSiu

namespace ResetsInOrder

variable {parameters : Parameters} {log log' : List Command}

lemma of_not_mem (h : ∀ command ∈ log, (Access.write command).kind ≠ .resetExternal) :
    ResetsInOrder parameters log := by
  rintro earlier includeSiu later rfl
  exact absurd rfl (h _ (List.mem_append_right _ List.mem_cons_self))

lemma append (h : ResetsInOrder parameters log) (h' : ResetsInOrder parameters log') :
    ResetsInOrder parameters (log ++ log') := by
  intro earlier includeSiu later hsplit
  rcases List.append_eq_append_iff.1 hsplit with ⟨middle, rfl, hlog'⟩ | ⟨middle, hlog, hrest⟩
  · obtain ⟨hlast, hallowed⟩ := h' middle includeSiu later hlog'
    rw [List.getLast?_append, hlast]
    exact ⟨rfl, hallowed⟩
  · cases middle with
    | nil =>
      -- The second log would begin with an external reset.
      obtain ⟨hlast, -⟩ := h' [] includeSiu later hrest.symm
      cases hlast
    | cons command middle =>
      obtain ⟨rfl, -⟩ := List.cons_eq_cons.1 hrest
      exact h earlier includeSiu middle hlog

/-- A reset of the card with an external one right after it. -/
lemma pair {includeSiu : Bool} (h : parameters.AllowsExternalReset includeSiu) :
    ResetsInOrder parameters [.resetCard, .resetExternal includeSiu] := by
  intro earlier siu later hsplit
  rcases earlier with _ | ⟨first, _ | ⟨second, earlier⟩⟩
  · cases hsplit
  · cases hsplit
    exact ⟨rfl, h⟩
  · cases earlier <;> cases hsplit

end ResetsInOrder

/-- What is checked of a level is what its external reset needs. -/
lemma allowsExternalReset_of_check {parameters : Parameters} {level : ResetLevel}
    (hfamily : parameters.family = .crorc) (hexternal : level.includesExternal = true)
    (hcheck : ResetLevel.check parameters.family level parameters.loopback = .ok ()) :
    parameters.AllowsExternalReset level.includesSiu := by
  refine ⟨hfamily, ?_⟩
  unfold ResetLevel.check at hcheck
  rw [hfamily, hexternal] at hcheck
  cases level <;> cases hloopback : parameters.loopback <;>
    simp_all [ResetLevel.includesExternal, ResetLevel.includesSiu]

/-- The card has logged more commands, with the resets among them in order. -/
def LogsInOrder (parameters : Parameters) (channel last : Channel (γ × SimulatedCard)) : Prop :=
  ∃ added : List Command,
    last.card.2.commands.toList = channel.card.2.commands.toList ++ added ∧
      ResetsInOrder parameters added

lemma LogsInOrder.of_card {parameters : Parameters} {channel last : Channel (γ × SimulatedCard)}
    (h : last.card = channel.card) : LogsInOrder parameters channel last := by
  refine ⟨[], ?_, ResetsInOrder.of_not_mem (by simp)⟩
  rw [h, List.append_nil]

namespace Endpoint.Simulated

variable {endpoint : Endpoint (γ × SimulatedCard)} {channel : Channel (γ × SimulatedCard)}

/-- A command that is obeyed is logged, and one that fails is not. -/
lemma ensures_write (h : endpoint.Simulated) (command : Command)
    (channel : Channel (γ × SimulatedCard)) :
    Ensures (endpoint.write command) channel
      (fun _ last => last.card.2.commands.toList = channel.card.2.commands.toList ++ [command])
      (fun _ last => last.card.2.commands = channel.card.2.commands) := by
  unfold write
  rw [Endpoint.ensures_access]
  constructor
  · intro reply card hperform
    rcases h.perform_cases hperform with ⟨_, _, hreply, _⟩ | ⟨_, hcard⟩
    · cases hreply
    · dsimp only
      rw [hcard]
      exact channel.card.2.commands_after_write command
  · intro fault card hperform
    rcases h.perform_cases hperform with ⟨_, _, _, hcard⟩ | ⟨hreply, _⟩
    · dsimp only
      rw [hcard]
    · cases hreply

lemma observes_confined (h : endpoint.Simulated) {parameters : Parameters}
    {kinds : List Access.Kind} {α : Type} {program : ChannelM (γ × SimulatedCard) α}
    (hconfined : endpoint.Confined kinds program) (hkinds : .resetExternal ∉ kinds) :
    Observes (LogsInOrder parameters) program := by
  intro channel
  have hlogs {last : Channel (γ × SimulatedCard)}
      (hreaches : endpoint.registers.Reaches kinds channel.card last.card) :
      LogsInOrder parameters channel last := by
    obtain ⟨added, hadded, hkind⟩ := h.commands_of_reaches hreaches
    refine ⟨added, hadded, ResetsInOrder.of_not_mem fun command hmem hreset => hkinds ?_⟩
    exact hreset ▸ hkind command hmem
  exact (hconfined channel).mono (fun _ _ hlast => hlogs hlast) (fun _ _ hlast => hlogs hlast.1)

/-- The external reset is not even tried unless the card has obeyed the reset before it. -/
lemma observes_resetWithLink (h : endpoint.Simulated) {parameters : Parameters}
    {level : ResetLevel} (hallowed : parameters.AllowsExternalReset level.includesSiu) :
    Observes (LogsInOrder parameters) (endpoint.resetWithLink level) := by
  intro channel
  unfold resetWithLink
  rw [ensures_bind]
  apply (h.ensures_write .resetCard channel).mono
  · intro _ reset hreset
    apply (h.ensures_write (.resetExternal level.includesSiu) reset).mono
    · intro _ last hlast
      refine ⟨[.resetCard, .resetExternal level.includesSiu], ?_, .pair hallowed⟩
      rw [hlast, hreset, List.append_assoc]
      rfl
    · intro e last hlast
      rw [← hlast] at hreset
      refine ⟨[.resetCard], hreset, ResetsInOrder.of_not_mem ?_⟩
      simp [Access.kind]
  · intro e last hlast
    refine ⟨[], ?_, ResetsInOrder.of_not_mem (by simp)⟩
    rw [hlast, List.append_nil]

lemma logsInOrder_routine (h : endpoint.Simulated) :
    endpoint.Routine (LogsInOrder endpoint.parameters) where
  same hcard _ _ := .of_card hcard
  trans := by
    rintro channel middle last ⟨added, hadded, horder⟩ ⟨added', hadded', horder'⟩
    refine ⟨added ++ added', ?_, horder.append horder'⟩
    rw [hadded', hadded, List.append_assoc]
  perform access hroutine := by
    apply h.observes_confined (confined_perform access.kind rfl (List.mem_singleton_self _))
    intro hmem
    rw [← List.mem_singleton.1 hmem] at hroutine
    cases hroutine
  ensureDebugMode := h.observes_confined (confined_ensureDebugMode endpoint) (by decide)
  resetWithLink level hfamily hexternal hcheck :=
    h.observes_resetWithLink (allowsExternalReset_of_check hfamily hexternal hcheck)

lemma commands_inOrder (h : endpoint.Simulated)
    (hlevel : ResetLevel.check endpoint.parameters.family endpoint.startLevel
      endpoint.parameters.loopback = .ok ()) (channel : Channel (γ × SimulatedCard))
    (call : Call) :
    ResetsInOrder endpoint.parameters
      (newCommands channel (endpoint.afterCall channel call)) := by
  have hroutine := (h.during call).logsInOrder_routine
  have hobserves := hroutine.run (fun _ _ => .of_card rfl) hlevel call.operation
  obtain ⟨added, hadded, horder⟩ := hobserves.lastState channel
  unfold afterCall
  rwa [newCommands_of_append hadded]

/-- While the channel runs, no call but a stop resets anything. -/
lemma commands_running (h : endpoint.Simulated) (hrunning : channel.lifecycle = .running)
    {call : Call} (hstop : call.operation ≠ .stop) :
    (endpoint.afterCall channel call).lifecycle = .running ∧
      ∀ command ∈ newCommands channel (endpoint.afterCall channel call),
        command.isReset = false := by
  obtain ⟨operation, buffer⟩ := call
  by_cases hstart : operation = .start
  · subst hstart
    obtain ⟨-, record, hlast⟩ :=
      Operation.run_again (endpoint.during ⟨.start, buffer⟩) channel (.inl ⟨hrunning, rfl⟩)
    have hnone : newCommands channel (endpoint.afterCall channel ⟨.start, buffer⟩) = [] := by
      apply newCommands_of_append
      rw [afterCall, hlast, List.append_nil]
    rw [hnone, afterCall, hlast]
    exact ⟨hrunning, by simp⟩
  · have hreaches := operation.reaches_running (endpoint.during ⟨operation, buffer⟩) hstart hstop
      hrunning
    obtain ⟨added, hadded, hkinds⟩ := (h.during ⟨operation, buffer⟩).commands_of_reaches hreaches
    have hlifecycle :=
      operation.lifecycle_eq (endpoint.during ⟨operation, buffer⟩) hstart hstop channel
    refine ⟨hlifecycle.trans hrunning, ?_⟩
    unfold afterCall
    rw [newCommands_of_append hadded]
    intro command hmem
    exact Command.isReset_of_kind (by decide) (hkinds command hmem)

lemma close_inOrder (h : endpoint.Simulated) {parameters : Parameters}
    (channel : Channel (γ × SimulatedCard)) :
    ResetsInOrder parameters (newCommands channel (endpoint.close channel)) := by
  obtain ⟨added, hadded, hkinds⟩ := h.commands_close channel
  rw [newCommands_of_append hadded]
  apply ResetsInOrder.of_not_mem
  intro command hmem hreset
  have hkind := hkinds command hmem
  rw [hreset] at hkind
  simp at hkind

lemma close_resets_nothing (h : endpoint.Simulated) (channel : Channel (γ × SimulatedCard)) :
    ∀ command ∈ newCommands channel (endpoint.close channel), command.isReset = false := by
  obtain ⟨added, hadded, hkinds⟩ := h.commands_close channel
  rw [newCommands_of_append hadded]
  intro command hmem
  exact Command.isReset_of_kind (by decide) (hkinds command hmem)

end Endpoint.Simulated

lemma Endpoint.running_of_start {endpoint : Endpoint (γ × SimulatedCard)}
    {channel : Channel (γ × SimulatedCard)} {call : Call} (hstart : call.operation = .start)
    (hsuccess : failure? (call.operation.run (endpoint.during call)) channel = none) :
    (endpoint.afterCall channel call).lifecycle = .running := by
  obtain ⟨operation, buffer⟩ := call
  dsimp only at hstart
  subst hstart
  rcases ((endpoint.during ⟨.start, buffer⟩).start_standing channel).outcome with
    ⟨_, -, ⟨-, hrunning, -⟩ | ⟨hrunning, hlast⟩⟩ | ⟨e, hfailure, -⟩
  · exact hrunning
  · exact (Channel.lifecycle_of_standing hlast).trans hrunning
  · cases hsuccess.symm.trans hfailure

/-- Whatever fails, and whatever others do to the card between the calls: among the commands that
a channel writes from its opening to its closing, an external reset comes right after a reset of
the card, and only where it is allowed. From a start that succeeds to the next call of stop, none
of them is a reset. If others leave the log of the card alone, it has these commands at the end. -/
theorem resets_in_order (endpoint : Endpoint (γ × SimulatedCard))
    (hsimulated : endpoint.Simulated) (card : γ × SimulatedCard)
    (channel : Channel (γ × SimulatedCard)) (hopen : endpoint.openChannel card = .ok channel)
    (turns : List (Turn (γ × SimulatedCard))) :
    ResetsInOrder endpoint.parameters (endpoint.writtenUntilClosed channel turns) ∧
      (∀ earlier call later, turns = earlier ++ .call call :: later → call.operation = .start →
        let before := endpoint.afterTurns channel earlier
        failure? (call.operation.run (endpoint.during call)) before = none →
        (∀ call, .call call ∈ later → call.operation ≠ .stop) →
        ∀ command ∈ endpoint.writtenUntilClosed (endpoint.afterCall before call) later,
          command.isReset = false) ∧
      ((∀ f, .change f ∈ turns → ∀ card : γ × SimulatedCard,
          (f card).2.commands = card.2.commands) →
        (endpoint.close (endpoint.afterTurns channel turns)).card.2.commands.toList =
          card.2.commands.toList ++ endpoint.writtenUntilClosed channel turns) := by
  have hlevel := Endpoint.check_startLevel hopen
  obtain ⟨links, hopened⟩ := exists_opened hopen
  refine ⟨?_, ?_, ?_⟩
  · have hwritten : True ∧ ResetsInOrder endpoint.parameters (endpoint.written channel turns) := by
      apply Endpoint.written_induction (P := fun _ => True) (Q := ResetsInOrder endpoint.parameters)
      · exact ResetsInOrder.of_not_mem (by simp)
      · exact ResetsInOrder.append
      · intro call _ before _
        exact ⟨trivial, hsimulated.commands_inOrder hlevel before call⟩
      · intro f _ before _
        trivial
      · trivial
    exact hwritten.2.append (hsimulated.close_inOrder _)
  · rintro earlier call later - hstart before hsuccess hstop
    have hstarted : (endpoint.afterCall before call).lifecycle = .running :=
      endpoint.running_of_start hstart hsuccess
    have hwritten : (endpoint.afterTurns (endpoint.afterCall before call) later).lifecycle =
          .running ∧
        ∀ command ∈ endpoint.written (endpoint.afterCall before call) later,
          command.isReset = false := by
      apply Endpoint.written_induction (P := fun channel => channel.lifecycle = .running)
        (Q := fun log => ∀ command ∈ log, command.isReset = false)
      · simp
      · intro log log' hlog hlog'
        exact List.forall_mem_append.2 ⟨hlog, hlog'⟩
      · intro call hcall before hrunning
        exact hsimulated.commands_running hrunning (hstop call hcall)
      · intro f _ before hrunning
        exact hrunning
      · exact hstarted
    exact List.forall_mem_append.2 ⟨hwritten.2, hsimulated.close_resets_nothing _⟩
  · intro hlog
    rw [← hopened.card]
    exact hsimulated.commands_closed hlog

/-- The link of a simulated card, both ends of which are reset in every start. -/
def singleLink : Endpoint ScriptedCard where
  parameters :=
    { family := .crorc, generatorEnabled := false, loopback := .none,
      resetLevel := .internalDiuSiu, linkCapacity? := some 2 }
  registers := ScriptedCard.registers
  buffer := LinearBuffer.toBuffer { size := 0x100000 }

def singleLinkChannel (card : ScriptedCard) : Channel ScriptedCard where
  lifecycle := .stopped
  pipeline := .idle [⟨0⟩] 2 2
  debugModeSet := false
  card
  journal := { records := (Endpoint.openingRecords singleLink.parameters [⟨0⟩]).toArray }

def singleLinkCall (operation : Operation) : Turn ScriptedCard :=
  .call ⟨operation, singleLink.buffer⟩

/-- Both ends are reset in the first start, the near end on request, and none in the second start,
in which that fails. The last reset is refused, as the channel runs again. -/
theorem resets_in_order_refused :
    let script : FaultScript := [⟨.resetExternal, 2, 1, .because "link"⟩]
    let channel := singleLinkChannel (script, {})
    let earlier := [.start, .stop, .reset .internalDiu, .start].map singleLinkCall
    let later := [singleLinkCall (.reset .internal)]
    let log := singleLink.writtenUntilClosed channel (earlier ++ singleLinkCall .start :: later)
    let before := singleLink.afterTurns channel earlier
    let started := singleLink.afterCall before ⟨.start, singleLink.buffer⟩
    singleLink.Simulated ∧ singleLink.openChannel (script, {}) = .ok channel ∧
      failure? singleLink.start before = none ∧
      (∀ call, .call call ∈ later → call.operation ≠ .stop) ∧
      ResetsInOrder singleLink.parameters log ∧
      log.filter Command.isReset =
        [.resetGeneratorCounter, .resetCard, .resetExternal true, .resetGeneratorCounter,
          .resetCard, .resetExternal false, .resetGeneratorCounter, .resetCard,
          .resetGeneratorCounter, .resetCard, .resetExternal true] ∧
      ∀ command ∈ singleLink.writtenUntilClosed started later, command.isReset = false := by
  intro script channel earlier later log before started
  have hsimulated : singleLink.Simulated := ⟨_, rfl⟩
  have hopen : singleLink.openChannel (script, {}) = .ok channel := rfl
  have hstarts : failure? singleLink.start before = none := by decide +kernel
  have hstop : ∀ call, .call call ∈ later → call.operation ≠ .stop := by
    simp [later, singleLinkCall]
  obtain ⟨horder, hrunning, -⟩ := resets_in_order singleLink hsimulated _ channel hopen
    (earlier ++ singleLinkCall .start :: later)
  exact ⟨hsimulated, hopen, hstarts, hstop, horder, by decide +kernel,
    hrunning earlier ⟨.start, singleLink.buffer⟩ later rfl rfl hstarts hstop⟩

end DmaReadout
