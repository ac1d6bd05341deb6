import DmaReadout.Proofs.CommandLog

/-!
# Settings of a card

A setting of a card is what one of its control registers was last set to. Accesses of a few kinds
change it, and all others keep it. So what a start that succeeds has set up is kept while the
channel runs, until it is stopped.
-/

namespace DmaReadout

variable {γ κ β : Type}

/-- A part of a card that only commands of the given kinds change. -/
structure Setting (β : Type) where
  value : SimulatedCard → β
  kinds : List Access.Kind
  value_obey : ∀ (card : SimulatedCard) command, (Access.write command).kind ∉ kinds →
    value (card.obey command) = value card
  value_rest : ∀ (card : SimulatedCard) completion counters commands droppedPackets failNext,
    value { card with completion, counters, commands, droppedPackets, failNext } = value card

namespace Setting

def armed : Setting Bool where
  value := SimulatedCard.armed
  kinds := [.setBufferReady]
  value_obey card command hkind := by
    cases command with
    | setBufferReady ready => exact absurd (List.mem_singleton_self _) hkind
    | _ => rfl
  value_rest _ _ _ _ _ _ := rfl

def dataSource : Setting (Option DataSource) where
  value := SimulatedCard.dataSource
  kinds := [.setDataSource]
  value_obey card command hkind := by
    cases command with
    | setDataSource source => exact absurd (List.mem_singleton_self _) hkind
    | _ => rfl
  value_rest _ _ _ _ _ _ := rfl

def dataTaking : Setting Bool where
  value := SimulatedCard.dataTaking
  kinds := [.enableDataTaking, .disableDataTaking]
  value_obey card command hkind := by
    cases command with
    | enableDataTaking => exact absurd List.mem_cons_self hkind
    | disableDataTaking =>
      exact absurd (List.mem_cons_of_mem _ (List.mem_singleton_self _)) hkind
    | _ => rfl
  value_rest _ _ _ _ _ _ := rfl

def debugMode : Setting Bool where
  value := SimulatedCard.debugMode
  kinds := [.setDebugMode]
  value_obey card command hkind := by
    cases command with
    | setDebugMode enabled => exact absurd (List.mem_singleton_self _) hkind
    | _ => rfl
  value_rest _ _ _ _ _ _ := rfl

variable (setting : Setting β)

/-- To log a command changes no setting. -/
lemma value_after_write (card : SimulatedCard) (command : Command) :
    setting.value (card.after (.write command)) = setting.value (card.obey command) :=
  setting.value_rest (card.obey command) (card.obey command).completion
    (card.obey command).counters ((card.obey command).commands.push command)
    (card.obey command).droppedPackets (card.obey command).failNext

lemma value_after_read (card : SimulatedCard) {access : Access} (hread : access.logged = []) :
    setting.value (card.after access) = setting.value card := by
  cases access with
  | write command => cases hread
  | superpageCount link =>
    obtain ⟨counters, hafter⟩ := card.exists_counters_after link
    rw [hafter]
    exact setting.value_rest card card.completion counters card.commands card.droppedPackets
      card.failNext
  | debugMode => rfl
  | droppedPackets => rfl

lemma value_after (card : SimulatedCard) {access : Access} (hkind : access.kind ∉ setting.kinds) :
    setting.value (card.after access) = setting.value card := by
  cases access with
  | write command =>
    exact (setting.value_after_write card command).trans (setting.value_obey card command hkind)
  | superpageCount link => exact setting.value_after_read card rfl
  | debugMode => exact setting.value_after_read card rfl
  | droppedPackets => exact setting.value_after_read card rfl

lemma value_refused (card : SimulatedCard) (failNext : Option String) :
    setting.value { card with failNext } = setting.value card :=
  setting.value_rest card card.completion card.counters card.commands card.droppedPackets failNext

lemma value_control (card : SimulatedCard) (control : CardControl) :
    setting.value (card.control control) = setting.value card := by
  have hrest := setting.value_rest card
  cases control with
  | complete link count => exact hrest card.completion _ card.commands card.droppedPackets _
  | completeAll => exact hrest card.completion _ card.commands card.droppedPackets _
  | setArrived link count => exact hrest card.completion _ card.commands card.droppedPackets _
  | setCompletion completion => exact hrest completion card.counters card.commands _ _
  | failNext message => exact hrest card.completion card.counters card.commands _ _
  | setDroppedPackets count => exact hrest card.completion card.counters card.commands _ _
  | clearCommands => exact hrest card.completion card.counters #[] _ _

/-- Accesses of other kinds keep a setting. -/
theorem value_of_reaches {endpoint : Endpoint (γ × SimulatedCard)} {kinds : List Access.Kind}
    {card card' : γ × SimulatedCard} (hsimulated : endpoint.Simulated)
    (hreaches : endpoint.registers.Reaches kinds card card')
    (hkinds : ∀ kind ∈ kinds, kind ∉ setting.kinds) :
    setting.value card'.2 = setting.value card.2 := by
  apply hsimulated.of_reaches (P := fun last => setting.value last = setting.value card.2) hreaches
  · intro middle access hkind hmiddle
    exact (setting.value_after middle (hkinds _ hkind)).trans hmiddle
  · intro middle failNext hmiddle
    exact (setting.value_refused middle failNext).trans hmiddle
  · rfl

end Setting

/-- What the operations take that a running channel goes on running after. -/
def Access.Kind.transferring : List Access.Kind :=
  [.pushSuperpage, .superpageCount, .droppedPackets, .injectError]

/-- A running channel refuses to be reset. -/
lemma Endpoint.reset_running (endpoint : Endpoint κ) (level : ResetLevel) {channel : Channel κ}
    (hrunning : channel.lifecycle = .running) :
    Ensures (endpoint.reset level) channel (fun _ last => last = channel)
      (fun _ last => last = channel) := by
  unfold reset
  by_cases hlevel : level ≠ .nothing
  · have hstopped : channel.lifecycle ≠ .stopped := by
      rw [hrunning]
      simp
    rw [if_pos hlevel, ensures_bind, ensures_get, if_neg hstopped]
    rfl
  · rw [if_neg hlevel]
    rfl

lemma Operation.reaches_running (endpoint : Endpoint κ) {operation : Operation}
    (hstart : operation ≠ .start) (hstop : operation ≠ .stop) {channel : Channel κ}
    (hrunning : channel.lifecycle = .running) :
    endpoint.registers.Reaches Access.Kind.transferring channel.card
      (lastState (operation.run endpoint) channel).card := by
  have hreaches := operation.reaches endpoint channel
  cases operation with
  | start => exact absurd rfl hstart
  | stop => exact absurd rfl hstop
  | reset level =>
    have hsame := (endpoint.reset_running level hrunning).of_lastState
    rw [run, hsame]
    exact .refl _
  | push superpage =>
    have hkinds : [Access.Kind.pushSuperpage] ⊆ Access.Kind.transferring := by decide
    exact hreaches.mono hkinds
  | fill => exact hreaches.mono (by decide)
  | peek => exact hreaches.mono (by decide)
  | pop => exact hreaches.mono (by decide)
  | droppedPackets => exact hreaches.mono (by decide)
  | injectError => exact hreaches.mono (by decide)

/-- The card of the channel is so while the channel is running. -/
def WhileRunning (P : SimulatedCard → Prop) (channel : Channel (γ × SimulatedCard)) : Prop :=
  channel.lifecycle = .running → P channel.card.2

/-- What a start that succeeds sets up, and only settings that a running channel keeps. -/
structure SetUp (endpoint : Endpoint (γ × SimulatedCard)) (P : SimulatedCard → Prop) : Prop where
  starts : ∀ channel, Ensures endpoint.configureAndArm channel (fun _ last => P last.card.2)
    (fun _ _ => True)
  after : ∀ (card : SimulatedCard) access, access.kind ∈ Access.Kind.transferring → P card →
    P (card.after access)
  refused : ∀ (card : SimulatedCard) failNext, P card → P { card with failNext }
  control : ∀ (card : SimulatedCard) control, P card → P (card.control control)

namespace WhileRunning

variable {P : SimulatedCard → Prop} {endpoint : Endpoint (γ × SimulatedCard)}
  {channel : Channel (γ × SimulatedCard)}

lemma start (h : WhileRunning P channel) (hsetup : SetUp endpoint P) :
    Ensures endpoint.start channel (fun _ last => WhileRunning P last)
      (fun _ last => WhileRunning P last) := by
  unfold Endpoint.start
  rw [ensures_bind, ensures_get]
  cases hlifecycle : channel.lifecycle with
  | stopped =>
    dsimp only
    rw [Channel.ensures_transition]
    apply (hsetup.starts _).mono
    · intro _ last hlast _
      exact hlast
    · intro e last _ hrunning
      cases hrunning
  | running => exact h
  | starting => exact h
  | stopping => exact h
  | resetting => exact h

lemma stop (h : WhileRunning P channel) :
    Ensures endpoint.stop channel (fun _ last => WhileRunning P last)
      (fun _ last => WhileRunning P last) := by
  apply (Endpoint.stop_standing endpoint channel).mono
  · rintro _ last (⟨-, hstopped, -⟩ | ⟨hstopped, hstanding⟩) hrunning
    · rw [hstopped] at hrunning
      cases hrunning
    · rw [Channel.lifecycle_of_standing hstanding, hstopped] at hrunning
      cases hrunning
  · rintro e last (⟨-, hstopped, -⟩ | rfl) hrunning
    · rw [hstopped] at hrunning
      cases hrunning
    · exact h hrunning

theorem call (h : WhileRunning P channel) (hsetup : SetUp endpoint P)
    (hsimulated : endpoint.Simulated) (operation : Operation) :
    WhileRunning P (lastState (operation.run endpoint) channel) := by
  by_cases hstart : operation = .start
  · subst hstart
    exact (h.start hsetup).of_lastState
  by_cases hstop : operation = .stop
  · subst hstop
    exact h.stop.of_lastState
  · intro hrunning
    rw [operation.lifecycle_eq endpoint hstart hstop] at hrunning
    exact hsimulated.of_reaches (operation.reaches_running endpoint hstart hstop hrunning)
      hsetup.after hsetup.refused (h hrunning)

theorem events (h : WhileRunning P channel) (hsetup : SetUp endpoint P)
    (hsimulated : endpoint.Simulated) (events : List Event) :
    WhileRunning P (endpoint.afterEvents channel events) := by
  induction events generalizing channel with
  | nil => exact h
  | cons event events ih =>
    apply ih
    cases event with
    | call call =>
      have hduring : SetUp (endpoint.during call) P :=
        ⟨hsetup.starts, hsetup.after, hsetup.refused, hsetup.control⟩
      exact h.call hduring (hsimulated.during call) call.operation
    | control control =>
      intro hrunning
      exact hsetup.control _ control (h hrunning)

end WhileRunning

end DmaReadout
