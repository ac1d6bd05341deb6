import DmaReadout.Proofs.AccessHistory
import DmaReadout.Proofs.AccessKinds
import DmaReadout.Proofs.Runs

/-!
# Recoverable errors

An error that is not fatal refuses an operation before anything happened: the card was not
accessed, and nothing of the channel has changed but its journal. `Operation.Refusal` lists
what an operation can be refused for, and `Operation.kinds` the kinds of accesses that it makes
when it is not refused.
-/

namespace DmaReadout

open Access.Kind (resetting preparing gating)

variable {κ α : Type}

/-- Why an operation is refused before anything happens. -/
inductive Operation.Refusal (endpoint : Endpoint κ) (channel : Channel κ) :
    Operation → ReadoutError → Prop
  | startState {state : Lifecycle} (h : channel.lifecycle = state) (hstopped : state ≠ .stopped)
      (hrunning : state ≠ .running) :
      Refusal endpoint channel .start (.invalidState Transition.start.name state)
  | startSource {e : ReadoutError}
      (h : DataSource.resolve endpoint.parameters.family endpoint.parameters.generatorEnabled
        endpoint.parameters.loopback = .error e) :
      Refusal endpoint channel .start e
  | stopState {state : Lifecycle} (h : channel.lifecycle = state) (hstopped : state ≠ .stopped)
      (hrunning : state ≠ .running) :
      Refusal endpoint channel .stop (.invalidState Transition.stop.name state)
  | resetState {level : ResetLevel} (hlevel : level ≠ .nothing)
      (h : channel.lifecycle ≠ .stopped) :
      Refusal endpoint channel (.reset level)
        (.invalidState Transition.reset.name channel.lifecycle)
  | resetLevel {level : ResetLevel} {e : ReadoutError}
      (h : ResetLevel.check endpoint.parameters.family level endpoint.parameters.loopback =
        .error e) :
      Refusal endpoint channel (.reset level) e
  | pushState {superpage : Superpage} (h : channel.lifecycle ≠ .running) :
      Refusal endpoint channel (.push superpage) (.invalidState "push" channel.lifecycle)
  | pushCapacity {superpage : Superpage} {e : ReadoutError}
      (h : channel.pipeline.checkCapacity = .error e) :
      Refusal endpoint channel (.push superpage) e
  | pushSuperpage {superpage : Superpage} {e : ReadoutError}
      (h : endpoint.checkSuperpage superpage = .error e) :
      Refusal endpoint channel (.push superpage) e
  | pushLink {superpage : Superpage} {e : ReadoutError}
      (h : channel.pipeline.nextLink = .error e) :
      Refusal endpoint channel (.push superpage) e
  | peek {e : ReadoutError} (h : channel.pipeline.peek = .error e) :
      Refusal endpoint channel .peek e
  | pop {e : ReadoutError} (h : channel.pipeline.pop = .error e) :
      Refusal endpoint channel .pop e

open Operation (Refusal)

namespace Endpoint

variable {endpoint : Endpoint κ} {kinds : List Access.Kind}

/-- The program makes accesses of these kinds. If it fails, but not fatally, then all but the
journal is as before. -/
def Recoverable (endpoint : Endpoint κ) (kinds : List Access.Kind) (program : ChannelM κ α) :
    Prop :=
  ∀ channel, Ensures program channel
    (fun _ last => endpoint.registers.Reaches kinds channel.card last.card)
    (fun e last => endpoint.registers.Reaches kinds channel.card last.card ∧
      (e.isFatal = false → last = { channel with journal := last.journal }))

/-- The program makes accesses of these kinds. If it fails, then fatally, or because it is
refused; a refusal leaves all but the journal as it was. -/
def Refusable (endpoint : Endpoint κ) (kinds : List Access.Kind)
    (refusal : Channel κ → ReadoutError → Prop) (program : ChannelM κ α) : Prop :=
  ∀ channel, Ensures program channel
    (fun _ last => endpoint.registers.Reaches kinds channel.card last.card)
    (fun e last => endpoint.registers.Reaches kinds channel.card last.card ∧
      (e.isFatal = true ∨
        refusal channel e ∧ last = { channel with journal := last.journal }))

lemma Confined.refusable {program : ChannelM κ α} {refusal : Channel κ → ReadoutError → Prop}
    (h : Confined endpoint kinds program) : endpoint.Refusable kinds refusal program := by
  intro channel
  apply (h channel).mono
  · intro a last hlast
    exact hlast
  · rintro e last ⟨hlast, hfatal⟩
    exact ⟨hlast, .inl hfatal⟩

/-- A refusal of the configuration comes before all else, and what comes later fails fatally. -/
lemma configureAndArm_refusable (endpoint : Endpoint κ) :
    endpoint.Refusable (preparing ++ gating)
      (fun _ e => DataSource.resolve endpoint.parameters.family
        endpoint.parameters.generatorEnabled endpoint.parameters.loopback = .error e)
      endpoint.configureAndArm := by
  intro channel
  rw [configureAndArm_eq, ensures_bind, ensures_ofExcept]
  constructor
  · intro source _
    have hwork : endpoint.Confined (preparing ++ gating) (do
        endpoint.prepare source
        modify fun channel => { channel with pipeline := channel.pipeline.clear }
        endpoint.arm source) := by
      apply ((confined_prepare endpoint source).mono (by decide)).bind
      intro _
      refine (Confined.modify ?_).bind ?_
      · intro prepared
        rfl
      · intro _
        exact (confined_arm endpoint source).mono (by decide)
    apply (hwork channel).mono
    · intro _ last hlast
      exact hlast
    · rintro e last ⟨hlast, hfatal⟩
      exact ⟨hlast, .inl hfatal⟩
  · intro e hresolve
    exact ⟨.refl _, .inr ⟨hresolve, rfl⟩⟩

lemma start_refusable (endpoint : Endpoint κ) :
    endpoint.Refusable (preparing ++ gating) (Refusal endpoint · .start) endpoint.start := by
  intro channel
  unfold start
  rw [ensures_bind, ensures_get]
  cases hlifecycle : channel.lifecycle with
  | stopped =>
    dsimp only
    rw [Channel.ensures_transition]
    apply (configureAndArm_refusable endpoint _).mono
    · intro _ last hlast
      exact hlast
    · rintro e last ⟨hlast, hcause⟩
      refine ⟨hlast, hcause.imp_right ?_⟩
      rintro ⟨hresolve, hsame⟩
      refine ⟨.startSource hresolve, ?_⟩
      rw [hsame, ← hlifecycle]
  | running => exact .refl _
  | starting => exact ⟨.refl _, .inr ⟨.startState hlifecycle nofun nofun, by rw [← hlifecycle]⟩⟩
  | stopping => exact ⟨.refl _, .inr ⟨.startState hlifecycle nofun nofun, by rw [← hlifecycle]⟩⟩
  | resetting => exact ⟨.refl _, .inr ⟨.startState hlifecycle nofun nofun, by rw [← hlifecycle]⟩⟩

lemma stop_refusable (endpoint : Endpoint κ) :
    endpoint.Refusable [.setBufferReady, .disableDataTaking, .superpageCount]
      (Refusal endpoint · .stop) endpoint.stop := by
  intro channel
  unfold stop
  rw [ensures_bind, ensures_get]
  cases hlifecycle : channel.lifecycle with
  | running =>
    dsimp only
    rw [Channel.ensures_transition]
    apply (confined_disarmAndDrain endpoint _).mono
    · intro _ last hlast
      exact hlast
    · rintro e last ⟨hlast, hfatal⟩
      exact ⟨hlast, .inl hfatal⟩
  | stopped => exact .refl _
  | starting => exact ⟨.refl _, .inr ⟨.stopState hlifecycle nofun nofun, by rw [← hlifecycle]⟩⟩
  | stopping => exact ⟨.refl _, .inr ⟨.stopState hlifecycle nofun nofun, by rw [← hlifecycle]⟩⟩
  | resetting => exact ⟨.refl _, .inr ⟨.stopState hlifecycle nofun nofun, by rw [← hlifecycle]⟩⟩

lemma reset_refusable (endpoint : Endpoint κ) (level : ResetLevel) :
    endpoint.Refusable resetting (Refusal endpoint · (.reset level)) (endpoint.reset level) := by
  intro channel
  unfold reset
  by_cases hlevel : level ≠ .nothing
  · rw [if_pos hlevel, ensures_bind, ensures_get]
    extract_lets state
    by_cases hstopped : state = .stopped
    · rw [if_pos hstopped, ensures_bind, ensures_ofExcept]
      constructor
      · intro _ _
        rw [Channel.ensures_transition]
        apply (confined_resetCard endpoint level _).mono
        · intro _ last hlast
          exact hlast
        · rintro e last ⟨hlast, hfatal⟩
          exact ⟨hlast, .inl hfatal⟩
      · intro e hcheck
        exact ⟨.refl _, .inr ⟨.resetLevel hcheck, rfl⟩⟩
    · rw [if_neg hstopped]
      exact ⟨.refl _, .inr ⟨.resetState hlevel hstopped, rfl⟩⟩
  · rw [if_neg hlevel]
    exact .refl _

lemma isFatal_of_enqueue {pipeline : Pipeline} {place : Nat} {link : Link}
    {superpage : Superpage} {e : ReadoutError}
    (h : pipeline.enqueue place link superpage = .error e) : e.isFatal = true := by
  unfold Pipeline.enqueue at h
  grind [ReadoutError.isFatal]

/-- Once a link was chosen, a push fails fatally if it fails. -/
lemma submit_refusable (endpoint : Endpoint κ) (superpage : Superpage) (pages : UInt32)
    (busAddress : UInt64) :
    endpoint.Refusable [.pushSuperpage]
      (fun channel e => channel.pipeline.nextLink = .error e)
      (endpoint.submit superpage pages busAddress) := by
  intro channel
  unfold submit
  rw [ensures_bind, ensures_get, ensures_bind, ensures_ofExcept]
  constructor
  · rintro ⟨place, link⟩ _
    apply Confined.refusable
    apply (confined_access .pushSuperpage rfl (by decide)).bind
    intro _ submitted
    rw [ensures_bind, ensures_get, ensures_bind, ensures_ofExcept]
    constructor
    · intro pipeline _
      exact .refl _
    · intro e he
      exact ⟨.refl _, isFatal_of_enqueue he⟩
  · intro e hnext
    exact ⟨.refl _, .inr ⟨hnext, rfl⟩⟩

lemma push_refusable (endpoint : Endpoint κ) (superpage : Superpage) :
    endpoint.Refusable [.pushSuperpage] (Refusal endpoint · (.push superpage))
      (endpoint.push superpage) := by
  intro channel
  unfold push
  rw [ensures_bind, ensures_get]
  by_cases hrunning : channel.lifecycle = .running
  · rw [if_pos hrunning, ensures_bind, ensures_ofExcept]
    constructor
    · intro _ _
      rw [ensures_bind, ensures_ofExcept]
      constructor
      · rintro ⟨pages, busAddress⟩ _
        dsimp only
        rw [ensures_discard]
        apply (submit_refusable endpoint superpage pages busAddress channel).mono
        · intro id last hlast
          exact hlast
        · rintro e last ⟨hlast, hcause⟩
          exact ⟨hlast, hcause.imp_right fun ⟨hnext, hsame⟩ => ⟨.pushLink hnext, hsame⟩⟩
      · intro e hcheck
        exact ⟨.refl _, .inr ⟨.pushSuperpage hcheck, rfl⟩⟩
    · intro e hcapacity
      exact ⟨.refl _, .inr ⟨.pushCapacity hcapacity, rfl⟩⟩
  · rw [if_neg hrunning]
    exact ⟨.refl _, .inr ⟨.pushState hrunning, rfl⟩⟩

end Endpoint

namespace Channel

/-- Looking for the oldest completed superpage makes no access. -/
lemma peek_refusable (endpoint : Endpoint κ) :
    endpoint.Refusable [] (Refusal endpoint · .peek) peek := by
  intro channel
  unfold peek
  rw [ensures_bind, ensures_get, ensures_ofExcept]
  constructor
  · intro superpage _
    exact .refl _
  · intro e hpeek
    exact ⟨.refl _, .inr ⟨.peek hpeek, rfl⟩⟩

lemma pop_refusable (endpoint : Endpoint κ) :
    endpoint.Refusable [] (Refusal endpoint · .pop) pop := by
  intro channel
  unfold pop
  rw [ensures_bind, ensures_get, ensures_bind, ensures_ofExcept]
  constructor
  · rintro ⟨superpage, pipeline⟩ _
    exact .refl _
  · intro e hpop
    exact ⟨.refl _, .inr ⟨.pop hpop, rfl⟩⟩

end Channel

namespace Operation

/-- The kinds of accesses that an operation makes. -/
def kinds : Operation → List Access.Kind
  | start => preparing ++ gating
  | stop => [.setBufferReady, .disableDataTaking, .superpageCount]
  | reset _ => resetting
  | push _ => [.pushSuperpage]
  | fill => [.superpageCount]
  | peek | pop => []
  | droppedPackets => [.droppedPackets]
  | injectError => [.injectError]

/-- Only starting and stopping let the card write, or keep it from writing. -/
lemma not_mem_kinds {operation : Operation} (hstart : operation ≠ .start)
    (hstop : operation ≠ .stop) : ∀ kind ∈ gating, kind ∉ operation.kinds := by
  cases operation with
  | start => exact absurd rfl hstart
  | stop => exact absurd rfl hstop
  | _ =>
    simp only [kinds]
    decide

lemma eq_push_of_kinds {operation : Operation}
    (h : .pushSuperpage ∈ operation.kinds) : ∃ superpage, operation = .push superpage := by
  cases operation with
  | push superpage => exact ⟨superpage, rfl⟩
  | _ => simp [kinds, resetting, preparing, gating] at h

/-- Whatever goes wrong once an operation was not refused is fatal. -/
theorem refusable (endpoint : Endpoint κ) (operation : Operation) :
    endpoint.Refusable operation.kinds (Refusal endpoint · operation)
      (operation.run endpoint) := by
  cases operation with
  | start => exact endpoint.start_refusable
  | stop => exact endpoint.stop_refusable
  | reset level => exact endpoint.reset_refusable level
  | push superpage => exact endpoint.push_refusable superpage
  | fill => exact endpoint.confined_fill.refusable
  | peek => exact Channel.peek_refusable endpoint
  | pop => exact Channel.pop_refusable endpoint
  | droppedPackets => exact (Endpoint.confined_access .droppedPackets rfl (by decide)).refusable
  | injectError => exact endpoint.confined_injectError.refusable

theorem recoverable (endpoint : Endpoint κ) (operation : Operation) :
    endpoint.Recoverable operation.kinds (operation.run endpoint) := by
  intro channel
  apply (operation.refusable endpoint channel).mono
  · intro a last hlast
    exact hlast
  · rintro e last ⟨hlast, hcause⟩
    refine ⟨hlast, fun hrecoverable => ?_⟩
    rcases hcause with hfatal | ⟨-, hsame⟩
    · cases hfatal.symm.trans hrecoverable
    · exact hsame

theorem reaches (endpoint : Endpoint κ) (operation : Operation) (channel : Channel κ) :
    endpoint.registers.Reaches operation.kinds channel.card
      (lastState (operation.run endpoint) channel).card := by
  have hall : Ensures (operation.run endpoint) channel
      (fun _ last => endpoint.registers.Reaches operation.kinds channel.card last.card)
      (fun _ last => endpoint.registers.Reaches operation.kinds channel.card last.card) := by
    apply (operation.recoverable endpoint channel).mono
    · intro a last hlast
      exact hlast
    · intro e last hlast
      exact hlast.1
  exact hall.of_lastState

end Operation

/-- Whatever card and buffer answer: an operation that fails with an error that is not fatal has
made no access, and has left all but the journal as it was. And a poll or a stop never fails
because a queue refused what was moved to it, or had nothing to move. -/
theorem recoverable_error_unchanged (endpoint : Endpoint κ) (operation : Operation)
    (channel : Channel κ) :
    (∀ e last, operation.run endpoint channel = .error e last → e.isFatal = false →
      operation.accesses endpoint channel = [] ∧ last = { channel with journal := last.journal }) ∧
    (operation = .fill ∨ operation = .stop →
      ∀ e last, operation.run endpoint channel = .error e last →
        e ≠ .queueEmpty ∧ ∀ text, e ≠ .other text) := by
  constructor
  · intro e last hrun hrecoverable
    constructor
    · obtain ⟨recorded, hrecorded, -⟩ :=
        (operation.run_recorded endpoint).of_error (channel.withHistory []) hrun
      have hsame := ((operation.recoverable endpoint.recorded _).of_error hrecorded).2 hrecoverable
      have hhistory : operation.accesses endpoint channel = recorded.card.1 := by
        rw [Operation.accesses, lastState, hrecorded]
      rw [hhistory, hsame]
      rfl
    · exact ((operation.recoverable endpoint channel).of_error hrun).2 hrecoverable
  · rintro (rfl | rfl) e last hrun
    · have hfatal := ((endpoint.confined_fill channel).of_error hrun).2
      constructor
      · rintro rfl
        cases hfatal
      · rintro text rfl
        cases hfatal
    · have hcause := ((endpoint.stop_refusable channel).of_error hrun).2
      constructor
      · rintro rfl
        rcases hcause with hfatal | ⟨hrefusal, -⟩
        · cases hfatal
        · cases hrefusal
      · rintro text rfl
        rcases hcause with hfatal | ⟨hrefusal, -⟩
        · cases hfatal
        · cases hrefusal

/-- Four pushes fill both links. A fifth is refused; a stop that cannot disarm the buffer has
made an access. -/
theorem recoverable_error_unchanged_full :
    let card : ScriptedCard :=
      ([⟨.setBufferReady, 1, 1, .because "disarm"⟩], { completion := .manual })
    let superpage : Superpage := ⟨0, 8192, 0, false, 0⟩
    let calls := [.start, .push superpage, .push superpage, .push superpage,
      .push superpage].map fun operation => ⟨operation, twoLinks.buffer⟩
    let full := twoLinks.afterCalls (twoLinksChannel card) calls
    let refused := lastState ((Operation.push superpage).run twoLinks) full
    let stopped := lastState (Operation.stop.run twoLinks) full
    (Operation.push superpage).run twoLinks full = .error .queueFull refused ∧
      ReadoutError.queueFull.isFatal = false ∧
      (Operation.push superpage).accesses twoLinks full = [] ∧
      refused = { full with journal := refused.journal } ∧
      Operation.stop.run twoLinks full = .error (.hardware (.because "disarm")) stopped ∧
      ReadoutError.hardware (.because "disarm") ≠ .queueEmpty ∧
      Operation.stop.accesses twoLinks full = [⟨.write (.setBufferReady false), false⟩] := by
  intro card superpage calls full refused stopped
  have hrefused : (Operation.push superpage).run twoLinks full = .error .queueFull refused :=
    eq_error_of_failure (by decide +kernel)
  have hstopped : Operation.stop.run twoLinks full =
      .error (.hardware (.because "disarm")) stopped :=
    eq_error_of_failure (by decide +kernel)
  obtain ⟨hnone, hsame⟩ := (recoverable_error_unchanged twoLinks _ full).1 _ _ hrefused rfl
  obtain ⟨hcause, -⟩ :=
    (recoverable_error_unchanged twoLinks _ full).2 (.inr rfl) _ _ hstopped
  exact ⟨hrefused, rfl, hnone, hsame, hstopped, hcause, by decide +kernel⟩

end DmaReadout
