import DmaReadout.Proofs.AccessHistory
import DmaReadout.Proofs.RecoverableErrors
import DmaReadout.Proofs.SimulatedRuns

/-!
# Switches of a card

A switch of a card is turned on by one command only, and off by another. When starting turns it
on, and whatever fails is followed by an attempt to turn it off, then the card of a stopped
channel has it off, unless that was refused.
-/

namespace DmaReadout

variable {γ : Type}

/-- A simulated card, with a history of its accesses and a guard in front. -/
abbrev RecordedCard (γ : Type) := AccessHistory × γ × SimulatedCard

/-- Two commands that turn something on and off; nothing else turns it on. -/
structure Switch where
  on : Command
  off : Command
  isOn : SimulatedCard → Bool
  isOn_off : ∀ card : SimulatedCard, isOn (card.after (.write off)) = false
  isOn_after : ∀ (card : SimulatedCard) access, access ≠ .write on →
    isOn (card.after access) = true → isOn card = true
  isOn_control : ∀ (card : SimulatedCard) control, isOn (card.control control) = isOn card
  isOn_refused : ∀ (card : SimulatedCard) failNext, isOn { card with failNext } = isOn card

namespace Switch

/-- If it is on, then it was turned on in the recorded time. -/
def Known (switch : Switch) (state : RecordedCard γ) : Prop :=
  switch.isOn state.2.2 = true → ⟨.write switch.on, true⟩ ∈ state.1

/-- If it is on, then one of the commands that should have kept the card from using it was
refused since. -/
def OffUnlessRefused (switch : Switch) (offs : List Command) (state : RecordedCard γ) : Prop :=
  switch.isOn state.2.2 = true → ∃ off ∈ offs, RefusedSince switch.on off state.1

variable {switch : Switch} {offs : List Command} {kinds : List Access.Kind}
  {endpoint : Endpoint (γ × SimulatedCard)} {state state' : RecordedCard γ}

lemma OffUnlessRefused.known (h : switch.OffUnlessRefused offs state) : switch.Known state := by
  intro hon
  obtain ⟨off, _, hrefused⟩ := h hon
  exact hrefused.mem

lemma Known.perform (h : switch.Known state) (hsimulated : endpoint.Simulated) {access : Access}
    {reply : Except Fault access.Reply}
    (hperform : endpoint.recorded.registers.perform access state = (reply, state')) :
    switch.Known state' := by
  intro hon
  rcases hsimulated.recorded_cases hperform with
    ⟨-, hhistory, failNext, hcard⟩ | ⟨-, hhistory, hcard⟩
  · rw [hcard, switch.isOn_refused] at hon
    rw [hhistory]
    exact List.mem_append_left _ (h hon)
  · rw [hhistory]
    by_cases haccess : access = .write switch.on
    · rw [haccess]
      exact List.mem_append_right _ (List.mem_singleton_self _)
    · rw [hcard] at hon
      exact List.mem_append_left _ (h (switch.isOn_after _ _ haccess hon))

lemma OffUnlessRefused.perform (h : switch.OffUnlessRefused offs state)
    (hsimulated : endpoint.Simulated) {access : Access} {reply : Except Fault access.Reply}
    (hperform : endpoint.recorded.registers.perform access state = (reply, state'))
    (hother : access ≠ .write switch.on ∨ ∃ fault, reply = .error fault) :
    switch.OffUnlessRefused offs state' := by
  intro hon
  rcases hsimulated.recorded_cases hperform with
    ⟨-, hhistory, failNext, hcard⟩ | ⟨⟨answer, hreply⟩, hhistory, hcard⟩
  · rw [hcard, switch.isOn_refused] at hon
    obtain ⟨off, hoff, hrefused⟩ := h hon
    rw [hhistory]
    exact ⟨off, hoff, hrefused.append (by simp)⟩
  · have haccess : access ≠ .write switch.on := by
      rcases hother with haccess | ⟨fault, hfault⟩
      · exact haccess
      · rw [hreply] at hfault
        cases hfault
    rw [hcard] at hon
    obtain ⟨off, hoff, hrefused⟩ := h (switch.isOn_after _ _ haccess hon)
    rw [hhistory]
    exact ⟨off, hoff, hrefused.append (by simp [haccess])⟩

/-- The refusal of a command that should turn the switch off is an excuse. -/
lemma Known.refused (h : switch.Known state) (hsimulated : endpoint.Simulated) {off : Command}
    (hoff : off ∈ offs) {fault : Fault}
    (hperform : endpoint.recorded.registers.perform (.write off) state = (.error fault, state')) :
    switch.OffUnlessRefused offs state' := by
  intro hon
  rcases hsimulated.recorded_cases hperform with
    ⟨-, hhistory, failNext, hcard⟩ | ⟨⟨answer, hreply⟩, -, -⟩
  · rw [hcard, switch.isOn_refused] at hon
    rw [hhistory]
    exact ⟨off, hoff, .of_failure (h hon)⟩
  · cases hreply

lemma off_of_perform (hsimulated : endpoint.Simulated) {answer : Unit}
    (hperform : endpoint.recorded.registers.perform (.write switch.off) state =
      (.ok answer, state')) :
    switch.isOn state'.2.2 = false := by
  rcases hsimulated.recorded_cases hperform with ⟨⟨fault, hreply⟩, -, -⟩ | ⟨-, -, hcard⟩
  · cases hreply
  · rw [hcard, switch.isOn_off]

lemma OffUnlessRefused.of_off (h : switch.isOn state.2.2 = false) :
    switch.OffUnlessRefused offs state := by
  intro hon
  rw [h] at hon
  cases hon

/-- Once it was tried to turn the switch off, it is off or that was refused. -/
lemma Known.turnOff (h : switch.Known state) (hsimulated : endpoint.Simulated)
    (hoff : switch.off ∈ offs) {reply : Except Fault Unit}
    (hperform : endpoint.recorded.registers.perform (.write switch.off) state = (reply, state')) :
    switch.OffUnlessRefused offs state' := by
  cases reply with
  | ok answer => exact .of_off (off_of_perform hsimulated hperform)
  | error fault => exact h.refused hsimulated hoff hperform

theorem Known.reaches (h : switch.Known state) (hsimulated : endpoint.Simulated)
    (hreaches : endpoint.recorded.registers.Reaches kinds state state') : switch.Known state' := by
  induction hreaches with
  | refl => exact h
  | tail _ htouch ih =>
    obtain ⟨access, reply, -, hperform⟩ := htouch
    exact ih.perform hsimulated hperform

theorem OffUnlessRefused.reaches (h : switch.OffUnlessRefused offs state)
    (hsimulated : endpoint.Simulated)
    (hreaches : endpoint.recorded.registers.Reaches kinds state state')
    (hkinds : (Access.write switch.on).kind ∉ kinds) : switch.OffUnlessRefused offs state' := by
  induction hreaches with
  | refl => exact h
  | tail _ htouch ih =>
    obtain ⟨access, reply, hkind, hperform⟩ := htouch
    apply ih.perform hsimulated hperform
    left
    rintro rfl
    exact hkinds hkind

lemma off_of_reaches (h : switch.isOn state.2.2 = false) (hsimulated : endpoint.Simulated)
    (hreaches : endpoint.recorded.registers.Reaches kinds state state')
    (hkinds : (Access.write switch.on).kind ∉ kinds) : switch.isOn state'.2.2 = false := by
  have hoff : switch.OffUnlessRefused [] state' :=
    OffUnlessRefused.reaches (.of_off h) hsimulated hreaches hkinds
  rw [Bool.eq_false_iff]
  intro hon
  obtain ⟨off, hmem, -⟩ := hoff hon
  cases hmem

/-- What starting and stopping have to do about a switch. -/
structure Governed (switch : Switch) (offs : List Command) (γ : Type) : Prop where
  gating : (Access.write switch.on).kind ∈ Access.Kind.gating
  arm : ∀ (endpoint : Endpoint (γ × SimulatedCard)) (source : DataSource)
    (channel : Channel (RecordedCard γ)), endpoint.Simulated →
    switch.OffUnlessRefused offs channel.card →
    Ensures (endpoint.recorded.arm source) channel (fun _ last => switch.Known last.card)
      (fun _ last => switch.OffUnlessRefused offs last.card)
  stop : ∀ (endpoint : Endpoint (γ × SimulatedCard)) (channel : Channel (RecordedCard γ)),
    endpoint.Simulated → switch.Known channel.card →
    Ensures endpoint.recorded.disarmAndDrain channel
      (fun _ last => switch.OffUnlessRefused offs last.card)
      (fun _ last => switch.OffUnlessRefused offs last.card)

/-- A stopped channel has the switch off, unless that was refused. -/
structure Settled (switch : Switch) (offs : List Command) (channel : Channel (RecordedCard γ)) :
    Prop where
  known : switch.Known channel.card
  off : channel.lifecycle = .stopped → switch.OffUnlessRefused offs channel.card

namespace Settled

variable {channel : Channel (RecordedCard γ)}

lemma of_off (h : switch.isOn channel.card.2.2 = false) : switch.Settled offs channel := by
  have hoff : switch.OffUnlessRefused offs channel.card := .of_off h
  exact ⟨hoff.known, fun _ => hoff⟩

/-- The switch is only turned on after the card was prepared. -/
lemma configureAndArm (hgoverned : switch.Governed offs γ) (hsimulated : endpoint.Simulated)
    (h : switch.OffUnlessRefused offs channel.card) :
    Ensures endpoint.recorded.configureAndArm channel (fun _ last => switch.Known last.card)
      (fun _ last => switch.OffUnlessRefused offs last.card) := by
  have hpreparing : (Access.write switch.on).kind ∉ Access.Kind.preparing := by
    have hdisjoint : ∀ kind ∈ Access.Kind.gating, kind ∉ Access.Kind.preparing := by decide
    exact hdisjoint _ hgoverned.gating
  rw [Endpoint.configureAndArm_eq, ensures_bind, ensures_ofExcept]
  constructor
  · intro source _
    rw [ensures_bind]
    apply (Endpoint.confined_prepare endpoint.recorded source channel).mono
    · intro _ prepared hprepared
      rw [ensures_bind, ensures_modify]
      exact hgoverned.arm endpoint source _ hsimulated
        (h.reaches hsimulated hprepared hpreparing)
    · rintro e prepared ⟨hprepared, -⟩
      exact h.reaches hsimulated hprepared hpreparing
  · intro e _
    exact h

lemma start (hgoverned : switch.Governed offs γ) (hsimulated : endpoint.Simulated)
    (h : switch.Settled offs channel) :
    Ensures endpoint.recorded.start channel (fun _ last => switch.Settled offs last)
      (fun _ last => switch.Settled offs last) := by
  unfold Endpoint.start
  rw [ensures_bind, ensures_get]
  cases hlifecycle : channel.lifecycle with
  | stopped =>
    dsimp only
    rw [Channel.ensures_transition]
    let starting := { channel with lifecycle := .starting }
    have hoff : switch.OffUnlessRefused offs starting.card := h.off hlifecycle
    apply (configureAndArm hgoverned hsimulated hoff).mono
    · intro _ last hknown
      refine ⟨hknown, ?_⟩
      intro hstopped
      cases hstopped
    · intro e last hoff
      exact ⟨hoff.known, fun _ => hoff⟩
  | running => exact ⟨h.known, h.off⟩
  | starting => exact h
  | stopping => exact h
  | resetting => exact h

lemma stop (hgoverned : switch.Governed offs γ) (hsimulated : endpoint.Simulated)
    (h : switch.Settled offs channel) :
    Ensures endpoint.recorded.stop channel (fun _ last => switch.Settled offs last)
      (fun _ last => switch.Settled offs last) := by
  unfold Endpoint.stop
  rw [ensures_bind, ensures_get]
  cases hlifecycle : channel.lifecycle with
  | running =>
    dsimp only
    rw [Channel.ensures_transition]
    let stopping := { channel with lifecycle := .stopping }
    have hknown : switch.Known stopping.card := h.known
    apply (hgoverned.stop endpoint stopping hsimulated hknown).mono
    · intro _ last hoff
      exact ⟨hoff.known, fun _ => hoff⟩
    · intro e last hoff
      exact ⟨hoff.known, fun _ => hoff⟩
  | stopped => exact ⟨h.known, h.off⟩
  | starting => exact h
  | stopping => exact h
  | resetting => exact h

theorem call (h : switch.Settled offs channel) (hgoverned : switch.Governed offs γ)
    (hsimulated : endpoint.Simulated) (operation : Operation) :
    switch.Settled offs (lastState (operation.run endpoint.recorded) channel) := by
  by_cases hstart : operation = .start
  · subst hstart
    exact (h.start hgoverned hsimulated).of_lastState
  by_cases hstop : operation = .stop
  · subst hstop
    exact (h.stop hgoverned hsimulated).of_lastState
  · -- No other operation makes an access that could turn the switch on.
    have hreaches := operation.reaches endpoint.recorded channel
    have hkinds := operation.not_mem_kinds hstart hstop _ hgoverned.gating
    constructor
    · exact h.known.reaches hsimulated hreaches
    · intro hstopped
      rw [operation.lifecycle_eq endpoint.recorded hstart hstop] at hstopped
      exact (h.off hstopped).reaches hsimulated hreaches hkinds

lemma control {channel : Channel (γ × SimulatedCard)} {history : AccessHistory}
    (h : switch.Settled offs (channel.withHistory history)) (control : CardControl) :
    switch.Settled offs ((endpoint.afterEvent channel (.control control)).withHistory history) := by
  have hsame := switch.isOn_control channel.card.2 control
  constructor
  · intro hon
    exact h.known (hsame.symm.trans hon)
  · intro hstopped hon
    exact h.off hstopped (hsame.symm.trans hon)

theorem events {channel : Channel (γ × SimulatedCard)} {history : AccessHistory}
    (h : switch.Settled offs (channel.withHistory history)) (hgoverned : switch.Governed offs γ)
    (hsimulated : endpoint.Simulated) (events : List Event) :
    switch.Settled offs ((endpoint.afterEvents channel events).withHistory
      (history ++ endpoint.accesses channel events)) := by
  induction events generalizing channel history with
  | nil =>
    change switch.Settled offs (channel.withHistory (history ++ []))
    rw [List.append_nil]
    exact h
  | cons event events ih =>
    cases event with
    | call call =>
      have hcall := h.call hgoverned (hsimulated.during call) call.operation
      rw [Operation.lastState_recorded] at hcall
      rw [Endpoint.accesses, ← List.append_assoc]
      exact ih hcall
    | control control => exact ih (h.control control)

end Settled

end Switch

end DmaReadout
