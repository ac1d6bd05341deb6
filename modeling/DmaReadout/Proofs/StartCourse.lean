import DmaReadout.Proofs.StartPlans

/-!
# The course of a start

A start carries out its plan, or breaks off at an access that fails. The queues are still there if
that access prepares the card, and are cleared if it lets the card write. Once the buffer is armed,
breaking off includes two more accesses, and what they answer does not count.
-/

namespace DmaReadout

open Access.Kind (preparing gating)

variable {κ : Type}

/-- What is recorded after an access failed: nothing, or if the buffer was armed, that it was
disarmed and that data taking was switched off, each with or without success. -/
inductive TakesBack (written : List Command) : AccessHistory → Prop
  | unarmed (h : .setBufferReady true ∉ written) : TakesBack written []
  | armed (h : .setBufferReady true ∈ written) (disarmed halted : Bool) : TakesBack written
    [⟨.write (.setBufferReady false), disarmed⟩, ⟨.write .disableDataTaking, halted⟩]

/-- A plan breaks off with the error, and the arming of the buffer is taken back. -/
def Registers.Abandons (registers : Registers κ) (plan : List Access) (card : κ) (access : Access)
    (made : AccessHistory) (e : ReadoutError) : Prop :=
  ∃ done fault last rest, registers.BreaksOff plan done access fault card last ∧
    TakesBack (commandsOf done) rest ∧ made = granted done ++ ⟨access, false⟩ :: rest ∧
    e = .hardware fault

/-- The queues are as before if the access prepares the card, and cleared if it is a later one. -/
def Access.LeavesQueues (access : Access) (before after : Pipeline) : Prop :=
  access.kind ∈ preparing ∧ after = before ∨ access.kind ∈ gating ∧ after = before.clear

namespace Registers

variable {registers : Registers κ} {plan plan' done : List Access} {card middle last : κ}
  {access : Access} {made : AccessHistory} {fault : Fault} {e : ReadoutError}

/-- Before the buffer is armed, there is nothing to take back. -/
lemma BreaksOff.abandons (h : registers.BreaksOff plan done access fault card last)
    (hdone : .setBufferReady true ∉ commandsOf done) :
    registers.Abandons plan card access (granted done ++ [⟨access, false⟩]) (.hardware fault) :=
  ⟨done, fault, last, [], h, .unarmed hdone, rfl, rfl⟩

lemma Abandons.extend (h : registers.Abandons plan card access made e) (plan' : List Access) :
    registers.Abandons (plan ++ plan') card access made e := by
  obtain ⟨done, fault, last, rest, hbreaks, hrest⟩ := h
  exact ⟨done, fault, last, rest, hbreaks.extend plan', hrest⟩

lemma Abandons.after (h : registers.Abandons plan' middle access made e)
    (hgrants : registers.Grants plan card middle)
    (hplan : .setBufferReady true ∉ commandsOf plan) :
    registers.Abandons (plan ++ plan') card access (granted plan ++ made) e := by
  obtain ⟨done, fault, last, rest, hbreaks, htaken, rfl, rfl⟩ := h
  refine ⟨plan ++ done, fault, last, rest, hbreaks.after hgrants, ?_, ?_, rfl⟩
  · rw [commandsOf_append]
    cases htaken with
    | unarmed hdone => exact .unarmed fun hmem => (List.mem_append.1 hmem).elim hplan hdone
    | armed hdone disarmed halted =>
      exact .armed (List.mem_append_right _ hdone) disarmed halted
  · rw [granted_append, List.append_assoc]

lemma Abandons.mem (h : registers.Abandons plan card access made e) : access ∈ plan := by
  obtain ⟨done, fault, last, rest, hbreaks, -⟩ := h
  exact hbreaks.mem

end Registers

namespace Endpoint

variable {endpoint : Endpoint κ} {source : DataSource} {enabled later : Bool}

/-- Preparing the card does not arm the buffer. -/
lemma not_armed_of_subset {done : List Access}
    (h : done ⊆ endpoint.preparePlan source enabled later) :
    .setBufferReady true ∉ commandsOf done :=
  fun hmem => absurd (kind_mem_preparing (h (mem_commandsOf.1 hmem))) (by decide)

lemma follows_beginDataTaking (channel : Channel κ) :
    endpoint.Follows (takingPlan source) (endpoint.beginDataTaking source) channel := by
  unfold takingPlan beginDataTaking
  apply Follows.access_bind
  intro _ card _
  apply Follows.ite
  · intro _
    exact .access endpoint _ _
  · intro _
    exact .pure _

lemma ensures_abandonStart (endpoint : Endpoint κ) (channel : Channel (AccessHistory × κ)) :
    Ensures endpoint.recorded.abandonStart channel
      (fun _ last => ∃ disarmed halted, last.card.1 = channel.card.1 ++
        [⟨.write (.setBufferReady false), disarmed⟩, ⟨.write .disableDataTaking, halted⟩])
      (fun _ _ => False) := by
  unfold abandonStart
  rw [ensures_bind]
  apply ensures_attempt.mono
  · rintro _ tried ⟨disarmed, hdisarmed⟩
    apply ensures_attempt.mono
    · rintro _ last ⟨halted, hhalted⟩
      refine ⟨disarmed.isOk, halted.isOk, ?_⟩
      rw [(Registers.of_perform_recorded hhalted).2, (Registers.of_perform_recorded hdisarmed).2,
        List.append_assoc]
      rfl
    · intro e last hfalse
      exact hfalse
  · intro e tried hfalse
    exact hfalse

/-- Arming follows its plan, and is taken back if it breaks off too late. -/
lemma ensures_arm (endpoint : Endpoint κ) (source : DataSource)
    (channel : Channel (AccessHistory × κ)) :
    Ensures (endpoint.recorded.arm source) channel
      (fun _ last => last.card.1 = channel.card.1 ++ granted (armPlan source))
      (fun e last => ∃ access made,
        endpoint.registers.Abandons (armPlan source) channel.card.2 access made e ∧
          last.card.1 = channel.card.1 ++ made) := by
  unfold arm
  rw [ensures_bind]
  apply (Follows.access endpoint.recorded (.write (.setBufferReady true)) channel).traced.mono
  · rintro _ armed ⟨harmed, hhistory⟩
    rw [ensures_bind, ensures_tryCatch]
    apply (follows_beginDataTaking armed).traced.mono
    · rintro _ begun ⟨-, hbegun⟩
      change begun.card.1 = _
      rw [hbegun, hhistory, List.append_assoc]
      rfl
    · rintro e failed ⟨done, access, fault, hbreaks, rfl, hfailed⟩
      rw [ensures_bind]
      apply (ensures_abandonStart endpoint failed).mono
      · rintro _ last ⟨disarmed, halted, hlast⟩
        refine ⟨access, _, ⟨_, fault, failed.card.2, _, hbreaks.after harmed,
          .armed List.mem_cons_self disarmed halted, rfl, rfl⟩, ?_⟩
        rw [hlast, hfailed, hhistory, List.append_assoc, List.append_assoc, List.append_assoc]
        rfl
      · intro _ last hfalse
        exact hfalse.elim
  · rintro e last ⟨done, access, fault, hbreaks, rfl, hlast⟩
    have hdone : done = [] := by
      have hlength := hbreaks.planned.length_le
      rw [List.length_append, List.length_singleton, List.length_singleton] at hlength
      exact List.length_eq_zero_iff.1 (by omega)
    subst hdone
    exact ⟨access, _, (hbreaks.abandons List.not_mem_nil).extend (takingPlan source), hlast⟩

/-- With a source, the plan is carried out or abandoned. -/
theorem configureAndArm_course {endpoint : Endpoint κ} {channel : Channel (AccessHistory × κ)}
    (hresolve : DataSource.resolve endpoint.parameters.family endpoint.parameters.generatorEnabled
      endpoint.parameters.loopback = .ok source)
    (hreads : endpoint.StartReads source channel.card.2 enabled later) :
    Ensures endpoint.recorded.configureAndArm channel
      (fun _ last => last.pipeline = channel.pipeline.clear ∧
        last.card.1 = channel.card.1 ++ granted (endpoint.startPlan source enabled later))
      (fun e last => ∃ access made, endpoint.registers.Abandons
          (endpoint.startPlan source enabled later) channel.card.2 access made e ∧
        last.card.1 = channel.card.1 ++ made ∧
        access.LeavesQueues channel.pipeline last.pipeline) := by
  have hfollows : endpoint.recorded.Follows (endpoint.preparePlan source enabled later)
      (endpoint.recorded.prepare source) channel := follows_prepare hreads.recorded
  rw [configureAndArm_eq, ensures_bind, ensures_ofExcept]
  constructor
  · intro resolved hresolved
    obtain rfl : source = resolved := Except.ok.inj (hresolve.symm.trans hresolved)
    rw [ensures_bind]
    apply (hfollows.traced.and (keeps_prepare endpoint.recorded source channel)).mono
    · rintro _ prepared ⟨⟨hgrants, hprepared⟩, hpipeline⟩
      rw [ensures_bind, ensures_modify]
      have hclear : prepared.pipeline.clear = channel.pipeline.clear := congrArg _ hpipeline
      apply ((ensures_arm endpoint source _).and (keeps_arm endpoint.recorded source _)).mono
      · rintro _ last ⟨hhistory, hstanding⟩
        refine ⟨(Channel.pipeline_of_standing hstanding).trans hclear, ?_⟩
        rw [startPlan, granted_append, ← List.append_assoc, ← hprepared]
        exact hhistory
      · rintro e last ⟨⟨access, made, habandons, hhistory⟩, hstanding⟩
        refine ⟨access, _, habandons.after hgrants (not_armed_of_subset (List.Subset.refl _)),
          ?_, .inr ⟨kind_mem_gating habandons.mem, ?_⟩⟩
        · rw [← List.append_assoc, ← hprepared]
          exact hhistory
        · exact (Channel.pipeline_of_standing hstanding).trans hclear
    · rintro e last ⟨⟨done, access, fault, hbreaks, rfl, hhistory⟩, hpipeline⟩
      have hdone : done ⊆ endpoint.preparePlan source enabled later :=
        List.Subset.trans (List.subset_append_left _ _) hbreaks.planned.subset
      exact ⟨access, _, (hbreaks.abandons (not_armed_of_subset hdone)).extend (armPlan source),
        hhistory, .inl ⟨kind_mem_preparing hbreaks.mem, hpipeline⟩⟩
  · intro e hresolved
    cases hresolve.symm.trans hresolved

variable {channel : Channel κ}

/-- A stopped channel starts by configuring and arming, and is running or stopped after it. -/
lemma ensures_start (hstopped : channel.lifecycle = .stopped)
    {ok : Unit → Channel κ → Prop} {failed : ReadoutError → Channel κ → Prop}
    (h : Ensures endpoint.configureAndArm { channel with lifecycle := .starting }
      (fun _ last => ok () { last with
        lifecycle := .running
        journal := last.journal.count (.transition .start) })
      (fun e last => failed e { last with
        lifecycle := .stopped
        journal := last.journal.count (.transition .start) })) :
    Ensures endpoint.start channel ok failed := by
  unfold start
  rw [ensures_bind, ensures_get, hstopped]
  exact Channel.ensures_transition.2 h

/-- Without a source, nothing is done. -/
theorem start_unresolved {e : ReadoutError} (hstopped : channel.lifecycle = .stopped)
    (hresolve : DataSource.resolve endpoint.parameters.family endpoint.parameters.generatorEnabled
      endpoint.parameters.loopback = .error e) :
    let last := lastState endpoint.start channel
    answer endpoint.start channel = .error e ∧ Operation.start.accesses endpoint channel = [] ∧
      last.standing = channel.standing := by
  have hrecorded : (channel.withHistory []).lifecycle = .stopped := hstopped
  have hstart : Ensures (Operation.start.run endpoint.recorded) (channel.withHistory [])
      (fun _ _ => False)
      (fun e' last => e' = e ∧ last.card.1 = [] ∧
        last.standing = (channel.withHistory []).standing) := by
    apply ensures_start hrecorded
    rw [configureAndArm_eq, ensures_bind, ensures_ofExcept]
    constructor
    · intro source hresolved
      cases hresolve.symm.trans hresolved
    · intro e' hresolved
      obtain rfl : e = e' := Except.error.inj (hresolve.symm.trans hresolved)
      exact ⟨rfl, rfl, congrArg (·, channel.pipeline) hstopped.symm⟩
  rcases Operation.answered_of_recorded hstart with
    ⟨_, -, hfalse⟩ | ⟨_, hanswer, rfl, hmade, hstanding⟩
  · exact hfalse.elim
  · exact ⟨hanswer, hmade, hstanding⟩

/-- Once there is a source, a start carries out its plan, or abandons it. -/
theorem start_course (hstopped : channel.lifecycle = .stopped)
    (hresolve : DataSource.resolve endpoint.parameters.family endpoint.parameters.generatorEnabled
      endpoint.parameters.loopback = .ok source)
    (hreads : endpoint.StartReads source channel.card enabled later) :
    let plan := endpoint.startPlan source enabled later
    let made := Operation.start.accesses endpoint channel
    let last := lastState endpoint.start channel
    answer endpoint.start channel = .ok () ∧ made = granted plan ∧
        last.lifecycle = .running ∧ last.pipeline = channel.pipeline.clear ∨
      ∃ e access, answer endpoint.start channel = .error e ∧
        endpoint.registers.Abandons plan channel.card access made e ∧
        last.lifecycle = .stopped ∧ access.LeavesQueues channel.pipeline last.pipeline := by
  intro plan made last
  have hrecorded : (channel.withHistory []).lifecycle = .stopped := hstopped
  have hstart : Ensures (Operation.start.run endpoint.recorded) (channel.withHistory [])
      (fun _ last => last.card.1 = granted plan ∧ last.lifecycle = .running ∧
        last.pipeline = channel.pipeline.clear)
      (fun e last => ∃ access,
        endpoint.registers.Abandons plan channel.card access last.card.1 e ∧
        last.lifecycle = .stopped ∧ access.LeavesQueues channel.pipeline last.pipeline) := by
    apply ensures_start hrecorded
    apply (configureAndArm_course hresolve hreads).mono
    · rintro _ last ⟨hpipeline, hmade⟩
      exact ⟨hmade, rfl, hpipeline⟩
    · rintro e last ⟨access, made, habandons, hmade, hqueues⟩
      change last.card.1 = made at hmade
      rw [← hmade] at habandons
      exact ⟨access, habandons, rfl, hqueues⟩
  rcases Operation.answered_of_recorded hstart with
    ⟨_, hanswer, hlast⟩ | ⟨e, hanswer, access, hlast⟩
  · exact .inl ⟨hanswer, hlast⟩
  · exact .inr ⟨e, access, hanswer, hlast⟩

end Endpoint

end DmaReadout
