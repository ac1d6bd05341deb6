import DmaReadout.Proofs.BackendSessions
import DmaReadout.Proofs.CommandLog

/-!
# The backend is unobservable

A channel on a held card and a held buffer goes through every session as if it owned both. If the
backend does not reset the external endpoints, this can only be seen in the log of the card: an
external reset comes right after a reset of the card that has succeeded, and does nothing else.
-/

namespace DmaReadout

open Channel (Alike)

variable {σ ρ κ : Type}

/-! ### Through a holder -/

lemma Endpoint.matches_through (endpoint : Endpoint κ) (holding : Holding σ κ) (holder : σ) :
    endpoint.Matches (fun card last => last = holding.set card holder)
      (endpoint.registers.through holding) := by
  rintro access - card _ rfl reply next hperform
  refine ⟨holding.set next holder, ?_, rfl⟩
  simp only [Registers.through, holding.get_set, hperform, holding.set_set]

/-- A holder is all that a session changes, and only as far as it holds the card. -/
lemma Backend.session_held (registers : Registers ScriptedCard)
    (holding : Holding σ ScriptedCard) (lending : Holding ρ Buffer) (lender : ρ)
    (parameters : Parameters) (buffer : Buffer) (card : ScriptedCard) (holder : σ)
    (steps : List SessionStep) :
    SameOutcome (Proceedings.Same fun card last => last = holding.set card holder)
      ((plain registers buffer).session parameters card steps)
      ((held registers holding lending (lending.set buffer lender)).session parameters
        (holding.set card holder) steps) := by
  have hbuffer : Buffer.through lending (lending.set buffer lender) = buffer := by
    rw [Buffer.through, lending.get_set]
  have hinStep : ((plain registers buffer).endpoint parameters).InStep (fun _ => True)
      (fun card last => last = holding.set card holder) True
      (held registers holding lending (lending.set buffer lender)).registers :=
    (Endpoint.matches_through _ holding holder).inStep
  apply session_inStep hinStep hbuffer
  · rintro change - card _ rfl
    simp only [held, plain, Holding.modify, Holding.owned, holding.get_set, holding.set_set, id]
  · intros
    trivial
  · rfl

/-! ### Without external resets -/

lemma Registers.withoutExternalReset_perform (registers : Registers κ) {access : Access}
    (h : access.isExternalReset = false) (card : κ) :
    registers.withoutExternalReset.perform access card = registers.perform access card := by
  cases access with
  | write command =>
    cases command with
    | resetExternal => cases h
    | _ => rfl
  | _ => rfl

/-- Without a reset of the link ends, nothing tells whether the registers have one. -/
lemma Endpoint.inStep_withoutExternalReset (endpoint : Endpoint κ) :
    endpoint.InStep
      (fun level => endpoint.parameters.family = .crorc → level.includesExternal = false) Eq True
      endpoint.registers.withoutExternalReset where
  perform access _ hreset := by
    apply Lockstep.perform
    rintro card _ rfl reply next hperform
    rw [Registers.withoutExternalReset_perform _ hreset]
    exact ⟨next, hperform, rfl⟩
  resetWithLink level hlevel hcrorc hexternal := by
    rw [hlevel hcrorc] at hexternal
    cases hexternal

lemma Endpoint.startLevel_includesExternal (endpoint : Endpoint κ) :
    endpoint.startLevel.includesExternal = endpoint.parameters.resetLevel.includesExternal := by
  unfold startLevel
  cases endpoint.parameters.resetLevel <;> rfl

/-- The session never asks for a reset of the link ends that the card could carry out. -/
def SparesLink (parameters : Parameters) (steps : List SessionStep) : Prop :=
  parameters.family = .crorc → parameters.resetLevel.includesExternal = false ∧
    ∀ level, .call (.reset level) ∈ steps → level.includesExternal = false

lemma Backend.session_withoutExternalReset (registers : Registers ScriptedCard)
    {parameters : Parameters} (buffer : Buffer) (card : ScriptedCard) {steps : List SessionStep}
    (hspares : SparesLink parameters steps) :
    SameOutcome (Proceedings.Same Eq) ((plain registers buffer).session parameters card steps)
      ((plain registers.withoutExternalReset buffer).session parameters card steps) := by
  have hinStep : ((plain registers buffer).endpoint parameters).InStep
      (fun level => parameters.family = .crorc → level.includesExternal = false) Eq True
      (plain registers.withoutExternalReset buffer).registers :=
    Endpoint.inStep_withoutExternalReset _
  apply session_inStep hinStep rfl
  · rintro change - card _ rfl
    rfl
  · intro operation hmem level hlevel hcrorc
    obtain ⟨hinitial, hrequested⟩ := hspares hcrorc
    cases operation with
    | start =>
      cases hlevel
      exact (Endpoint.startLevel_includesExternal _).trans hinitial
    | reset level' =>
      cases hlevel
      exact hrequested _ hmem
    | _ => cases hlevel
  · rfl

/-! ### External resets that are only missing from the log -/

namespace FaultScript

variable {kind : Access.Kind} {script : FaultScript}

/-- Consulting a script uses up faults, but does not change what they concern. -/
lemma map_kind_consult (kind : Access.Kind) (script : FaultScript) :
    (script.consult kind).2.map ScriptedFault.kind = script.map ScriptedFault.kind := by
  induction script with
  | nil => rfl
  | cons entry rest ih =>
    rw [consult]
    split
    · rfl
    · dsimp only
      rw [List.map_cons, List.map_cons, ih]
      split <;> rfl

/-- An access that the script does not concern passes it without a trace. -/
lemma consult_of_not_mem (h : kind ∉ script.map ScriptedFault.kind) :
    script.consult kind = (none, script) := by
  induction script with
  | nil => rfl
  | cons entry rest ih =>
    rw [List.map_cons, List.mem_cons, not_or] at h
    have hkind : ¬entry.kind = kind := fun heq => h.1 heq.symm
    rw [consult, ih h.2]
    simp [hkind]

end FaultScript

namespace SimulatedCard

/-- The cards are the same but for their logs. The second has the log of the first without the
external resets that have followed `start`, unless the log was cleared since. -/
structure Abridged (start : List Command) (card card' : SimulatedCard) : Prop where
  same : card' = { card with commands := card'.commands }
  log : ∃ kept added, (kept = start ∨ kept = []) ∧ card.commands.toList = kept ++ added ∧
    card'.commands.toList = kept ++ added.filter fun command => !command.isExternalReset

namespace Abridged

variable {start : List Command} {card card' : SimulatedCard}

lemma refl (card : SimulatedCard) : Abridged card.commands.toList card card where
  same := rfl
  log := ⟨card.commands.toList, [], .inl rfl, (List.append_nil _).symm, (List.append_nil _).symm⟩

lemma after (h : Abridged start card card') {access : Access}
    (hreset : access.isExternalReset = false) :
    Abridged start (card.after access) (card'.after access) := by
  constructor
  · rw [h.same]
    cases access with
    | write command => cases command <;> rfl
    | superpageCount link =>
      obtain ⟨completion⟩ := card
      cases completion <;> rfl
    | _ => rfl
  · obtain ⟨kept, added, hkept, hlog, hlog'⟩ := h.log
    refine ⟨kept, added ++ access.logged, hkept, ?_, ?_⟩
    · rw [commands_after, hlog, List.append_assoc]
    · have hlogged : access.logged.filter (fun command => !command.isExternalReset) =
          access.logged := by
        cases access with
        | write command =>
          have hkept : (!command.isExternalReset) = true := by
            rw [Bool.not_eq_true']
            exact hreset
          exact List.filter_cons_of_pos hkept
        | _ => rfl
      rw [commands_after, hlog', List.append_assoc, List.filter_append, hlogged]

/-- The second card does not see an external reset. -/
lemma after_resetExternal (h : Abridged start card card') (includeSiu : Bool) :
    Abridged start (card.after (.write (.resetExternal includeSiu))) card' := by
  constructor
  · exact h.same
  · obtain ⟨kept, added, hkept, hlog, hlog'⟩ := h.log
    refine ⟨kept, added ++ [.resetExternal includeSiu], hkept, ?_, ?_⟩
    · rw [commands_after_write, hlog, List.append_assoc]
    · have hdropped : [Command.resetExternal includeSiu].filter
          (fun command => !command.isExternalReset) = [] := rfl
      rw [hlog', List.filter_append, hdropped, List.append_nil]

lemma reply_eq (h : Abridged start card card') (access : Access) :
    card'.reply access = card.reply access := by
  rw [h.same]
  cases access <;> rfl

lemma control (h : Abridged start card card') (control : CardControl) :
    Abridged start (card.control control) (card'.control control) := by
  constructor
  · rw [h.same]
    cases control <;> rfl
  · cases control with
    | clearCommands => exact ⟨[], [], .inr rfl, rfl, rfl⟩
    | _ => exact h.log

lemma failNext (h : Abridged start card card') (failNext : Option String) :
    Abridged start { card with failNext } { card' with failNext } := by
  constructor
  · rw [h.same]
  · exact h.log

end Abridged

end SimulatedCard

/-- The cards are the same but for the external resets in their logs, and none of these is
scripted to fail. -/
structure ScriptedCard.Abridged (start : List Command) (card card' : ScriptedCard) : Prop where
  script : card'.1 = card.1
  noFault : .resetExternal ∉ card.1.map ScriptedFault.kind
  card : SimulatedCard.Abridged start card.2 card'.2

namespace ScriptedCard.Abridged

variable {start : List Command} {card card' : ScriptedCard}

lemma perform (h : Abridged start card card') {access : Access}
    (hreset : access.isExternalReset = false) {reply : Except Fault access.Reply}
    {next : ScriptedCard}
    (hperform : ScriptedCard.registers.perform access card = (reply, next)) :
    ∃ next', ScriptedCard.registers.perform access card' = (reply, next') ∧
      Abridged start next next' := by
  have hnoFault {fault? : Option Fault}
      (hconsult : FaultScript.consult access.kind card.1 = (fault?, next.1)) :
      .resetExternal ∉ next.1.map ScriptedFault.kind := by
    have hkinds := FaultScript.map_kind_consult access.kind card.1
    rw [hconsult] at hkinds
    rw [hkinds]
    exact h.noFault
  have hfailNext : card'.2.failNext = card.2.failNext := by rw [h.card.same]
  simp only [ScriptedCard.registers, SimulatedCard.guarded_perform_iff, h.script, hfailNext]
    at hperform ⊢
  rcases hperform with ⟨fault, hconsult, hreply, hnext⟩ |
    ⟨cause, hconsult, hpending, hreply, hnext⟩ | ⟨hconsult, hpending, hreply, hnext⟩
  · refine ⟨(next.1, card'.2), .inl ⟨fault, hconsult, hreply, rfl⟩, rfl, hnoFault hconsult, ?_⟩
    rw [hnext]
    exact h.card
  · refine ⟨(next.1, { card'.2 with failNext := none }),
      .inr (.inl ⟨cause, hconsult, hpending, hreply, rfl⟩), rfl, hnoFault hconsult, ?_⟩
    rw [hnext]
    exact h.card.failNext none
  · have hafter := h.card.after hreset
    refine ⟨(next.1, card'.2.after access), .inr (.inr ⟨hconsult, hpending, ?_, rfl⟩), rfl,
      hnoFault hconsult, ?_⟩
    · rw [hreply, hnext, hafter.reply_eq access]
    · rw [hnext]
      exact hafter

/-- An external reset that is not scripted to fail, succeeds while no fault is pending. -/
lemma perform_resetExternal (h : Abridged start card card') (hawake : card.2.failNext = none)
    (includeSiu : Bool) :
    ∃ next, ScriptedCard.registers.perform (.write (.resetExternal includeSiu)) card =
        (.ok (), next) ∧ Abridged start next card' := by
  refine ⟨(card.1, card.2.after (.write (.resetExternal includeSiu))), ?_, h.script, h.noFault,
    h.card.after_resetExternal includeSiu⟩
  rw [ScriptedCard.registers, SimulatedCard.guarded_perform_iff]
  exact .inr (.inr ⟨FaultScript.consult_of_not_mem h.noFault, hawake, rfl, rfl⟩)

lemma change (h : Abridged start card card') {change : CardChange}
    (hinject : ∀ fault, change = .inject fault → fault.kind ≠ .resetExternal) :
    Abridged start (change.apply card) (change.apply card') := by
  cases change with
  | control control => exact ⟨h.script, h.noFault, h.card.control control⟩
  | inject fault =>
    refine ⟨congrArg (· ++ [fault]) h.script, ?_, h.card⟩
    intro hmem
    rw [CardChange.apply, List.map_append, List.mem_append] at hmem
    rcases hmem with hmem | hmem
    · exact h.noFault hmem
    · exact hinject fault rfl (List.mem_singleton.1 hmem).symm

end ScriptedCard.Abridged

lemma Endpoint.inStep_abridged {endpoint : Endpoint ScriptedCard} (start : List Command)
    (hregisters : endpoint.registers = ScriptedCard.registers) :
    endpoint.InStep (fun _ => True) (ScriptedCard.Abridged start) True
      ScriptedCard.registers.withoutExternalReset := by
  have hperform (access : Access) (hreset : access.isExternalReset = false) :
      Lockstep (Alike (ScriptedCard.Abridged start) True) (endpoint.perform access)
        ((endpoint.on ScriptedCard.registers.withoutExternalReset).perform access) := by
    apply Lockstep.perform
    intro card card' h reply next hperform
    rw [hregisters] at hperform
    rw [Registers.withoutExternalReset_perform _ hreset]
    exact h.perform hreset hperform
  have hsimulated : endpoint.Simulated := ⟨_, hregisters⟩
  constructor
  · intro access _ hreset
    exact hperform access hreset
  · intro level _ _ _
    apply (hperform (.write .resetCard) rfl).access.bind_of_ensures fun channel =>
      hsimulated.access_awake _
    intro _ channel channel' halike hawake
    obtain ⟨next, hnext, habridged⟩ :=
      halike.card.perform_resetExternal hawake level.includesSiu
    unfold write
    rw [Endpoint.ensures_access, hregisters, hnext]
    refine ⟨?_, nofun⟩
    rintro reply card heq
    cases heq
    exact ⟨channel', rfl, halike.lifecycle, halike.pipeline, habridged, halike.trace⟩

lemma Backend.session_abridged (parameters : Parameters) (buffer : Buffer) {card : ScriptedCard}
    {steps : List SessionStep} (hscript : .resetExternal ∉ card.1.map ScriptedFault.kind)
    (hinject : ∀ fault, .change (.inject fault) ∈ steps → fault.kind ≠ .resetExternal) :
    SameOutcome (Proceedings.Same (ScriptedCard.Abridged card.2.commands.toList))
      ((plain ScriptedCard.registers buffer).session parameters card steps)
      ((plain ScriptedCard.registers.withoutExternalReset buffer).session parameters card
        steps) := by
  have hinStep : ((plain ScriptedCard.registers buffer).endpoint parameters).InStep
      (fun _ => True) (ScriptedCard.Abridged card.2.commands.toList) True
      (plain ScriptedCard.registers.withoutExternalReset buffer).registers :=
    Endpoint.inStep_abridged _ rfl
  apply session_inStep hinStep rfl
  · intro change hmem card card' habridged
    apply habridged.change
    rintro fault rfl
    exact hinject fault hmem
  · intros
    trivial
  · exact ⟨rfl, hscript, .refl card.2⟩

/-- Whoever holds the card and whoever lends the buffer: a session has the same answers, channels
and cards as on a card and a buffer that the channel owns, and the holder keeps all else. A backend
that does not reset the external endpoints makes no difference to a session that spares them. Nor
does it to any session, but for the log, if no external reset is scripted to fail. -/
theorem backend_unobservable (parameters : Parameters) (buffer : Buffer) (card : ScriptedCard)
    (steps : List SessionStep) :
    (∀ (registers : Registers ScriptedCard) {σ ρ : Type} (holding : Holding σ ScriptedCard)
      (holder : σ) (lending : Holding ρ Buffer) (lender : ρ),
      SameOutcome (Proceedings.Same fun card last => last = holding.set card holder)
        ((Backend.plain registers buffer).session parameters card steps)
        ((Backend.held registers holding lending (lending.set buffer lender)).session parameters
          (holding.set card holder) steps)) ∧
      (SparesLink parameters steps → ∀ registers : Registers ScriptedCard,
        SameOutcome (Proceedings.Same Eq)
          ((Backend.plain registers buffer).session parameters card steps)
          ((Backend.plain registers.withoutExternalReset buffer).session parameters card
            steps)) ∧
      (.resetExternal ∉ card.1.map ScriptedFault.kind →
        (∀ fault, .change (.inject fault) ∈ steps → fault.kind ≠ .resetExternal) →
        SameOutcome (Proceedings.Same (ScriptedCard.Abridged card.2.commands.toList))
          ((Backend.plain ScriptedCard.registers buffer).session parameters card steps)
          ((Backend.plain ScriptedCard.registers.withoutExternalReset buffer).session parameters
            card steps)) := by
  refine ⟨?_, ?_, ?_⟩
  · intro registers σ ρ holding holder lending lender
    exact Backend.session_held registers holding lending lender parameters buffer card holder
      steps
  · intro hspares registers
    exact Backend.session_withoutExternalReset registers buffer card hspares
  · intro hscript hinject
    exact Backend.session_abridged parameters buffer hscript hinject

/-- Both starts and the reset between them reset the link ends, which only one log shows. The
first start does not get to arm the card. At an internal level there is nothing to show. -/
theorem backend_unobservable_both_ends :
    let parameters : Parameters :=
      { family := .crorc, generatorEnabled := false, loopback := .none,
        resetLevel := .internalDiuSiu }
    let sparing : Parameters := { parameters with resetLevel := .internal }
    let buffer : Buffer := LinearBuffer.toBuffer { size := 0x100000 }
    let card : ScriptedCard := ([], {})
    let steps : List SessionStep :=
      [.change (.inject ⟨.setBufferReady, 0, 1, .because "arm"⟩), .call .start,
        .call (.reset .internalDiu), .change (.control .completeAll), .call .start]
    let full := Backend.plain ScriptedCard.registers buffer
    let reduced := Backend.plain ScriptedCard.registers.withoutExternalReset buffer
    let held := Backend.held (ρ := Boxed Buffer) ScriptedCard.registers .boxed .boxed ⟨buffer⟩
    let linkResets (session : Except ReadoutError (Proceedings ScriptedCard)) :=
      session.toOption.map fun proceedings =>
        proceedings.closed.card.2.commands.toList.filter Command.isExternalReset
    SameOutcome (Proceedings.Same fun card boxed => boxed = ⟨card⟩)
        (full.session parameters card steps) (held.session parameters ⟨card⟩ steps) ∧
      SparesLink sparing [.call .start] ∧
      SameOutcome (Proceedings.Same Eq) (full.session sparing card [.call .start])
        (reduced.session sparing card [.call .start]) ∧
      .resetExternal ∉ card.1.map ScriptedFault.kind ∧
      (∀ fault, .change (.inject fault) ∈ steps → fault.kind ≠ .resetExternal) ∧
      SameOutcome (Proceedings.Same (ScriptedCard.Abridged []))
        (full.session parameters card steps) (reduced.session parameters card steps) ∧
      linkResets (full.session parameters card steps) =
        some [.resetExternal true, .resetExternal false, .resetExternal true] ∧
      linkResets (reduced.session parameters card steps) = some [] := by
  intro parameters sparing buffer card steps full reduced held linkResets
  have hspares : SparesLink sparing [.call .start] := fun _ => ⟨rfl, by simp⟩
  have hinject : ∀ fault, .change (.inject fault) ∈ steps → fault.kind ≠ .resetExternal := by
    intro fault hmem
    have hfault : fault = ⟨.setBufferReady, 0, 1, .because "arm"⟩ := by simpa [steps] using hmem
    rw [hfault]
    decide
  obtain ⟨hheld, -, habridged⟩ := backend_unobservable parameters buffer card steps
  obtain ⟨-, hsame, -⟩ := backend_unobservable sparing buffer card [.call .start]
  exact ⟨hheld ScriptedCard.registers .boxed ⟨card⟩ .boxed ⟨buffer⟩, hspares,
    hsame hspares ScriptedCard.registers, List.not_mem_nil, hinject,
    habridged List.not_mem_nil hinject, by decide +kernel, by decide +kernel⟩

end DmaReadout
