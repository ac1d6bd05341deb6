import DmaReadout.Proofs.Runs

/-!
# Routines

A relation between a channel and what becomes of it, which every step of a program observes, is
observed by the program. Most relations of interest are observed by all steps but a few: those
that see to the debug mode, and an external reset with the reset of the card before it. This file
goes through the programs once for all such relations.
-/

namespace DmaReadout

variable {κ α β : Type}

/-- Whatever its outcome, the program leads a channel to one that is related to it. -/
def Observes (R : Channel κ → Channel κ → Prop) (program : ChannelM κ α) : Prop :=
  ∀ channel, Ensures program channel (fun _ last => R channel last) (fun _ last => R channel last)

lemma Observes.lastState {R : Channel κ → Channel κ → Prop} {program : ChannelM κ α}
    (h : Observes R program) (channel : Channel κ) :
    R channel (DmaReadout.lastState program channel) :=
  (h channel).of_lastState

/-- Neither the debug mode nor an external reset is concerned. -/
def Access.Kind.isRoutine : Access.Kind → Bool
  | .debugMode | .setDebugMode | .resetExternal => false
  | _ => true

/-- The relation does not see the lifecycle, the queues and the records of a channel, and goes on
from one step to the next. -/
structure Lasting (R : Channel κ → Channel κ → Prop) : Prop where
  same : ∀ {channel last : Channel κ}, last.card = channel.card →
    last.debugModeSet = channel.debugModeSet →
    last.journal.metrics = channel.journal.metrics → R channel last
  trans : ∀ {channel middle last : Channel κ}, R channel middle → R middle last → R channel last

namespace Lasting

variable {R : Channel κ → Channel κ → Prop} {program : ChannelM κ α}

lemma pure (h : Lasting R) (a : α) : Observes R (pure a) :=
  fun _ => h.same rfl rfl rfl

lemma throw (h : Lasting R) (e : ReadoutError) : Observes R (throw e : ChannelM κ α) :=
  fun _ => h.same rfl rfl rfl

lemma note (h : Lasting R) (record : LogRecord) : Observes R (Channel.note record) :=
  fun _ => h.same rfl rfl rfl

lemma setLifecycle (h : Lasting R) (lifecycle : Lifecycle) :
    Observes R (Channel.setLifecycle lifecycle) :=
  fun _ => h.same rfl rfl rfl

lemma setPipeline (h : Lasting R) (pipeline : Pipeline) :
    Observes R (Channel.setPipeline pipeline) :=
  fun _ => h.same rfl rfl rfl

lemma ofExcept (h : Lasting R) (result : Except ReadoutError α) :
    Observes R (ofExcept result) := by
  cases result with
  | ok a => exact h.pure a
  | error e => exact h.throw e

lemma bind {next : α → ChannelM κ β} (h : Lasting R) (hprogram : Observes R program)
    (hnext : ∀ a, Observes R (next a)) : Observes R (program >>= next) := by
  intro channel
  rw [ensures_bind]
  apply (hprogram channel).mono
  · intro a middle hmiddle
    exact (hnext a middle).mono (fun _ _ => h.trans hmiddle) (fun _ _ => h.trans hmiddle)
  · intro e last hlast
    exact hlast

lemma tryCatch {handle : ReadoutError → ChannelM κ α} (h : Lasting R)
    (hprogram : Observes R program) (hhandle : ∀ e, Observes R (handle e)) :
    Observes R (tryCatch program handle) := by
  intro channel
  rw [ensures_tryCatch]
  apply (hprogram channel).mono
  · intro a last hlast
    exact hlast
  · intro e middle hmiddle
    exact (hhandle e middle).mono (fun _ _ => h.trans hmiddle) (fun _ _ => h.trans hmiddle)

lemma access {endpoint : Endpoint κ} {access : Access} (h : Lasting R)
    (hperform : Observes R (endpoint.perform access)) : Observes R (endpoint.access access) := by
  apply h.bind hperform
  intro reply
  cases reply with
  | ok reply => exact h.pure _
  | error fault => exact h.throw _

lemma attempt {endpoint : Endpoint κ} {command : Command} {record : Fault → LogRecord}
    (h : Lasting R) (hperform : Observes R (endpoint.perform (.write command))) :
    Observes R (endpoint.attempt command record) := by
  apply h.bind hperform
  intro reply
  cases reply with
  | ok reply => exact h.pure _
  | error fault => exact h.note _

end Lasting

namespace Observes

variable {R : Channel κ → Channel κ → Prop} {program : ChannelM κ α}

lemma get_bind {next : Channel κ → ChannelM κ α} (hnext : ∀ channel, Observes R (next channel)) :
    Observes R (get >>= next) :=
  fun channel => hnext channel channel

lemma ite {c : Prop} [Decidable c] {other : ChannelM κ α} (hprogram : c → Observes R program)
    (hother : ¬c → Observes R other) : Observes R (if c then program else other) := by
  split
  · exact hprogram ‹c›
  · exact hother ‹¬c›

lemma discard (hprogram : Observes R program) : Observes R (discard program) := by
  intro channel
  rw [ensures_discard]
  exact hprogram channel

end Observes

namespace Endpoint

/-- The relation is observed by the steps that programs are made of. -/
structure Routine (endpoint : Endpoint κ) (R : Channel κ → Channel κ → Prop) : Prop
    extends Lasting R where
  perform : ∀ access : Access, access.kind.isRoutine = true →
    Observes R (endpoint.perform access)
  ensureDebugMode : Observes R endpoint.ensureDebugMode
  resetWithLink : ∀ level : ResetLevel, endpoint.parameters.family = .crorc →
    level.includesExternal = true →
    ResetLevel.check endpoint.parameters.family level endpoint.parameters.loopback = .ok () →
    Observes R (endpoint.resetWithLink level)

namespace Routine

open Observes (get_bind ite)

variable {endpoint : Endpoint κ} {R : Channel κ → Channel κ → Prop}

lemma write (h : endpoint.Routine R) {command : Command}
    (hkind : (Access.write command).kind.isRoutine = true) :
    Observes R (endpoint.write command) :=
  h.access (h.perform _ hkind)

lemma resetCard (h : endpoint.Routine R) {level : ResetLevel}
    (hlevel : ResetLevel.check endpoint.parameters.family level endpoint.parameters.loopback =
      .ok ()) : Observes R (endpoint.resetCard level) := by
  unfold Endpoint.resetCard
  refine ite (fun _ => ?_) fun _ => h.pure _
  extract_lets family finish reset
  have hfinish (r : Unit) : Observes R (finish r) := h.note _
  have hreset (r : Unit) : Observes R (reset r) := by
    apply h.bind h.ensureDebugMode
    intro _
    apply h.bind (h.write rfl)
    intro _
    -- The reset of the card belongs to the external reset, if there is one.
    by_cases hexternal : (level.includesExternal && decide (family = .crorc)) = true
    · simp only [if_pos hexternal]
      rw [← bind_assoc]
      rw [Bool.and_eq_true, decide_eq_true_eq] at hexternal
      exact h.bind (h.resetWithLink level hexternal.2 hexternal.1 hlevel) hfinish
    · simp only [if_neg hexternal]
      exact h.bind (h.write rfl) hfinish
  exact ite (fun _ => h.bind (h.note _) hreset) fun _ => hreset ()

lemma prepare (h : endpoint.Routine R)
    (hlevel : ResetLevel.check endpoint.parameters.family endpoint.startLevel
      endpoint.parameters.loopback = .ok ()) (source : DataSource) :
    Observes R (endpoint.prepare source) := by
  unfold Endpoint.prepare
  extract_lets parameters configure
  have hconfigure (r : Unit) : Observes R (configure r) := by
    apply h.bind h.ensureDebugMode
    intro _
    apply h.bind (h.write rfl)
    intro _
    apply h.bind (h.note _)
    intro _
    apply h.bind (h.setLifecycle _)
    intro _
    apply h.bind (h.resetCard hlevel)
    intro _
    exact h.setLifecycle _
  exact ite (fun _ => h.bind (h.write rfl) hconfigure) fun _ => hconfigure ()

lemma beginDataTaking (h : endpoint.Routine R) (source : DataSource) :
    Observes R (endpoint.beginDataTaking source) := by
  apply h.bind (h.write rfl)
  intro _
  exact ite (fun _ => h.write rfl) fun _ => h.pure _

lemma abandonStart (h : endpoint.Routine R) : Observes R endpoint.abandonStart := by
  apply h.bind (h.attempt (h.perform _ rfl))
  intro _
  exact h.attempt (h.perform _ rfl)

lemma arm (h : endpoint.Routine R) (source : DataSource) : Observes R (endpoint.arm source) := by
  apply h.bind (h.write rfl)
  intro _
  apply h.bind
  · apply h.tryCatch (h.beginDataTaking source)
    intro e
    exact h.bind h.abandonStart fun _ => h.throw _
  · intro _
    exact h.note _

theorem configureAndArm (h : endpoint.Routine R)
    (hlevel : ResetLevel.check endpoint.parameters.family endpoint.startLevel
      endpoint.parameters.loopback = .ok ()) : Observes R endpoint.configureAndArm := by
  rw [configureAndArm_eq]
  apply h.bind (h.ofExcept _)
  intro source
  apply h.bind (h.prepare hlevel source)
  intro _
  refine h.bind ?_ fun _ => h.arm source
  intro channel
  exact h.same rfl rfl rfl

lemma readArrivals (h : endpoint.Routine R) (links : List Link) :
    Observes R (endpoint.readArrivals links) := by
  induction links with
  | nil => exact h.pure _
  | cons link links ih =>
    rw [Endpoint.readArrivals]
    apply h.bind (h.perform (.superpageCount link.id) rfl)
    intro reply
    cases reply with
    | error fault => exact h.pure _
    | ok hardwareCount =>
      have hrest {next : List Nat × Option Fault → List Nat × Option Fault} :
          Observes R (endpoint.readArrivals links >>= fun read => Pure.pure (next read)) :=
        h.bind ih fun _ => h.pure _
      exact ite (fun _ => h.bind (h.note _) fun _ => hrest) fun _ => hrest

section Counting

variable (h : endpoint.Routine R)
  (hcount : ∀ (channel : Channel κ) (journal : Journal), R channel { channel with journal })

include h hcount

lemma transition {kind : Transition} {during after fallback : Lifecycle}
    {action : ChannelM κ Unit} (haction : Observes R action) :
    Observes R (Channel.transition kind during after fallback action) := by
  intro channel
  have hfinish {last : Channel κ} (lifecycle : Lifecycle)
      (hlast : R { channel with lifecycle := during } last) :
      R channel { last with lifecycle, journal := last.journal.count (.transition kind) } := by
    have hbegun : R channel { channel with lifecycle := during } := h.same rfl rfl rfl
    exact h.trans (h.trans hbegun hlast) (h.trans (hcount last _) (h.same rfl rfl rfl))
  rw [Channel.ensures_transition]
  exact (haction _).mono (fun _ _ => hfinish after) (fun _ _ => hfinish fallback)

lemma advance (quotas : List Nat) : Observes R (Channel.advance quotas) := by
  apply get_bind
  intro channel
  apply h.bind (h.ofExcept _)
  rintro ⟨pipeline, moves⟩
  refine h.bind ?_ fun _ => h.pure _
  intro channel
  exact h.trans (hcount channel _) (h.same rfl rfl rfl)

lemma drain : Observes R endpoint.drain := by
  apply get_bind
  intro channel
  apply h.bind (h.readArrivals _)
  rintro ⟨arrivals, fault?⟩
  apply h.bind (h.advance hcount _)
  intro moved
  cases fault? with
  | some fault => exact h.throw _
  | none =>
    apply get_bind
    intro drained
    exact h.bind (h.ofExcept _) fun _ => h.pure _

lemma disarmAndDrain : Observes R endpoint.disarmAndDrain := by
  apply h.bind (h.write rfl)
  intro _
  apply h.bind (h.write rfl)
  intro _
  exact h.bind (h.drain hcount) fun _ => h.note _

lemma submit (superpage : Superpage) (pages : UInt32) (busAddress : UInt64) :
    Observes R (endpoint.submit superpage pages busAddress) := by
  apply get_bind
  intro channel
  apply h.bind (h.ofExcept _)
  rintro ⟨place, link⟩
  refine h.bind (h.write rfl) fun _ => get_bind fun submitted => ?_
  apply h.bind (h.ofExcept _)
  intro pipeline
  apply h.bind (h.setPipeline _)
  intro _
  refine h.bind ?_ fun _ => h.pure _
  intro channel
  exact hcount channel _

lemma push (superpage : Superpage) : Observes R (endpoint.push superpage) := by
  apply get_bind
  intro channel
  refine ite (fun _ => ?_) fun _ => h.throw _
  apply h.bind (h.ofExcept _)
  intro _
  apply h.bind (h.ofExcept _)
  rintro ⟨pages, busAddress⟩
  exact (h.submit hcount superpage pages busAddress).discard

lemma pollArrivals (links : List Link) : Observes R (endpoint.pollArrivals links) := by
  induction links with
  | nil => exact h.pure _
  | cons link links ih =>
    rw [Endpoint.pollArrivals]
    apply h.bind (h.access (h.perform _ rfl))
    intro hardwareCount
    refine ite (fun _ => ?_) fun _ => h.bind ih fun _ => h.pure _
    apply h.bind (h.note _)
    intro _
    refine h.bind ?_ fun _ => h.throw _
    intro channel
    exact hcount channel _

lemma fill : Observes R endpoint.fill := by
  apply get_bind
  intro channel
  refine ite (fun _ => Observes.discard (get_bind fun polled => ?_)) fun _ => h.pure _
  exact h.bind (h.pollArrivals hcount _) (h.advance hcount)

omit hcount in
lemma pop : Observes R Channel.pop := by
  apply get_bind
  intro channel
  apply h.bind (h.ofExcept _)
  rintro ⟨superpage, pipeline⟩
  exact h.bind (h.setPipeline _) fun _ => h.pure _

omit hcount in
lemma injectError : Observes R endpoint.injectError :=
  ite (fun _ => h.bind (h.write rfl) fun _ => h.pure _) fun _ => h.pure _

lemma start (hlevel : ResetLevel.check endpoint.parameters.family endpoint.startLevel
    endpoint.parameters.loopback = .ok ()) : Observes R endpoint.start := by
  apply get_bind
  intro channel
  cases channel.lifecycle with
  | stopped => exact h.transition hcount (h.configureAndArm hlevel)
  | running => exact h.note _
  | starting => exact h.throw _
  | stopping => exact h.throw _
  | resetting => exact h.throw _

lemma stop : Observes R endpoint.stop := by
  apply get_bind
  intro channel
  cases channel.lifecycle with
  | running => exact h.transition hcount (h.disarmAndDrain hcount)
  | stopped => exact h.note _
  | starting => exact h.throw _
  | stopping => exact h.throw _
  | resetting => exact h.throw _

/-- A reset checks its level before it begins. -/
lemma reset (level : ResetLevel) : Observes R (endpoint.reset level) := by
  refine ite (fun _ => get_bind fun channel => ?_) fun _ => h.pure _
  refine ite (fun _ => ?_) fun _ => h.throw _
  cases hlevel : ResetLevel.check endpoint.parameters.family level
      endpoint.parameters.loopback with
  | error e =>
    intro _
    exact h.same rfl rfl rfl
  | ok => exact h.bind (h.pure ()) fun _ => h.transition hcount (h.resetCard hlevel)

/-- Every operation observes the relation, if it does not look at the journal. -/
theorem run (hlevel : ResetLevel.check endpoint.parameters.family endpoint.startLevel
    endpoint.parameters.loopback = .ok ()) (operation : Operation) :
    Observes R (operation.run endpoint) := by
  cases operation with
  | start => exact h.start hcount hlevel
  | stop => exact h.stop hcount
  | reset level => exact h.reset hcount level
  | push superpage => exact h.push hcount superpage
  | fill => exact h.fill hcount
  | peek => exact get_bind fun _ => h.ofExcept _
  | pop => exact h.pop
  | droppedPackets => exact h.access (h.perform _ rfl)
  | injectError => exact h.injectError

end Counting

end Routine

end Endpoint

/-- A channel is opened only if its initial reset level goes with its loopback mode; so does the
level of the reset in a start. -/
lemma Endpoint.check_startLevel {endpoint : Endpoint κ} {card : κ} {channel : Channel κ}
    (h : endpoint.openChannel card = .ok channel) :
    ResetLevel.check endpoint.parameters.family endpoint.startLevel
      endpoint.parameters.loopback = .ok () := by
  obtain ⟨hinitial, -⟩ := eq_of_openChannel h
  unfold startLevel
  cases hlevel : endpoint.parameters.resetLevel with
  | nothing => simp [ResetLevel.check, ResetLevel.includesExternal]
  | internal => rwa [hlevel] at hinitial
  | internalDiu => rwa [hlevel] at hinitial
  | internalDiuSiu => rwa [hlevel] at hinitial

end DmaReadout
