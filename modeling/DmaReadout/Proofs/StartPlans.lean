import DmaReadout.Proofs.AccessPlans

/-!
# What a start and a reset do, in order

A reset carries out a plan, and so does a start, but for the attempts to take the arming of the
buffer back. Only the answer to a read of the debug mode changes what is planned. The queues are
cleared between the accesses that prepare the card and those that let it write.
-/

namespace DmaReadout

open Access.Kind (preparing gating)

variable {κ : Type}

namespace Endpoint

/-- Seeing to the debug mode, where a read of it is answered with `enabled`. -/
def debugPlan (endpoint : Endpoint κ) (enabled : Bool) : List Access :=
  if endpoint.needsDebugMode then
    .debugMode :: if enabled then [] else [.write (.setDebugMode true)]
  else []

def linkResetPlan (endpoint : Endpoint κ) (level : ResetLevel) : List Access :=
  if level.includesExternal && endpoint.parameters.family = .crorc then
    [.write (.resetExternal level.includesSiu)]
  else []

def resetPlan (endpoint : Endpoint κ) (level : ResetLevel) (enabled : Bool) : List Access :=
  endpoint.debugPlan enabled ++
    .write .resetGeneratorCounter :: .write .resetCard :: endpoint.linkResetPlan level

def patternPlan (endpoint : Endpoint κ) : List Access :=
  if endpoint.parameters.generatorEnabled then
    [.write (.setGeneratorPattern endpoint.parameters.generatorPattern
      endpoint.parameters.dataSize endpoint.parameters.randomSize)]
  else []

/-- The part of starting before the card is reset. -/
def selectPlan (endpoint : Endpoint κ) (source : DataSource) (enabled : Bool) : List Access :=
  endpoint.patternPlan ++ (endpoint.debugPlan enabled ++ [.write (.setDataSource source)])

/-- The part of starting before the queues are cleared. The debug mode may be read twice. -/
def preparePlan (endpoint : Endpoint κ) (source : DataSource) (enabled later : Bool) :
    List Access :=
  endpoint.selectPlan source enabled ++ endpoint.resetPlan endpoint.startLevel later

def takingPlan (source : DataSource) : List Access :=
  .write .disableDataTaking :: if source.isExternal then [.write .enableDataTaking] else []

/-- The part of starting after the queues were cleared. -/
def armPlan (source : DataSource) : List Access :=
  .write (.setBufferReady true) :: takingPlan source

def startPlan (endpoint : Endpoint κ) (source : DataSource) (enabled later : Bool) : List Access :=
  endpoint.preparePlan source enabled later ++ armPlan source

/-- The two reads of the debug mode in a start are answered so, if it gets there. -/
structure StartReads (endpoint : Endpoint κ) (source : DataSource) (card : κ)
    (enabled later : Bool) : Prop where
  first : ∀ last, endpoint.registers.Grants endpoint.patternPlan card last →
    endpoint.registers.ReadsDebugMode last enabled
  second : ∀ last, endpoint.registers.Grants (endpoint.selectPlan source enabled) card last →
    endpoint.registers.ReadsDebugMode last later

lemma exists_startReads (endpoint : Endpoint κ) (source : DataSource) (card : κ) :
    ∃ enabled later, endpoint.StartReads source card enabled later := by
  obtain ⟨enabled, hfirst⟩ :=
    endpoint.registers.exists_readsDebugMode_after endpoint.patternPlan card
  obtain ⟨later, hsecond⟩ :=
    endpoint.registers.exists_readsDebugMode_after (endpoint.selectPlan source enabled) card
  exact ⟨enabled, later, hfirst, hsecond⟩

variable {endpoint : Endpoint κ} {channel : Channel κ} {source : DataSource}
  {enabled later : Bool}

lemma StartReads.recorded {state : AccessHistory × κ}
    (h : endpoint.StartReads source state.2 enabled later) :
    endpoint.recorded.StartReads source state enabled later where
  first last hlast := (h.first last.2 hlast.of_recorded.1).recorded
  second last hlast := (h.second last.2 hlast.of_recorded.1).recorded

lemma kind_mem_preparing {access : Access}
    (h : access ∈ endpoint.preparePlan source enabled later) : access.kind ∈ preparing := by
  unfold preparePlan selectPlan patternPlan resetPlan debugPlan linkResetPlan at h
  simp only [List.mem_append, List.mem_cons, List.mem_ite_nil_right, List.not_mem_nil,
    or_false] at h
  grind [Access.kind, preparing, Access.Kind.resetting]

lemma kind_mem_gating {access : Access} (h : access ∈ armPlan source) :
    access.kind ∈ gating := by
  unfold armPlan takingPlan at h
  grind [Access.kind, gating]

lemma follows_ensureDebugMode
    (hreads : endpoint.registers.ReadsDebugMode channel.card enabled) :
    endpoint.Follows (endpoint.debugPlan enabled) endpoint.ensureDebugMode channel := by
  unfold debugPlan ensureDebugMode
  apply Follows.ite
  · intro _
    apply Follows.access_bind
    intro reply card hperform
    rw [hreads reply card hperform]
    apply Follows.ite
    · intro _
      exact .pure _
    · intro _
      exact (Follows.access endpoint _ _).bind fun _ last _ => .modify rfl
  · intro _
    exact .pure _

lemma follows_resetCard {level : ResetLevel} (hlevel : level ≠ .nothing)
    (hreads : endpoint.registers.ReadsDebugMode channel.card enabled) :
    endpoint.Follows (endpoint.resetPlan level enabled) (endpoint.resetCard level) channel := by
  unfold resetPlan resetCard
  rw [if_pos hlevel]
  extract_lets family finish reset
  have hfinish (r : Unit) (last : Channel κ) : endpoint.Follows [] (finish r) last :=
    .modify rfl
  have hreset (channel : Channel κ)
      (hreads : endpoint.registers.ReadsDebugMode channel.card enabled) :
      endpoint.Follows (endpoint.debugPlan enabled ++
        .write .resetGeneratorCounter :: .write .resetCard :: endpoint.linkResetPlan level)
        (reset ()) channel := by
    apply (follows_ensureDebugMode hreads).bind
    intro _ _ _
    apply Follows.access_bind
    intro _ _ _
    apply Follows.access_bind
    intro _ _ _
    apply Follows.ite
    · intro _
      exact (Follows.access endpoint _ _).bind fun _ last _ => hfinish () last
    · intro _
      exact hfinish () _
  by_cases hexternal : (level.includesExternal && decide (family ≠ .crorc)) = true
  · rw [if_pos hexternal]
    exact Follows.modify_bind rfl (hreset _ hreads)
  · rw [if_neg hexternal]
    exact hreset channel hreads

/-- The answers to the two reads of the debug mode decide what a start does before the queues are
cleared. -/
lemma follows_prepare (hreads : endpoint.StartReads source channel.card enabled later) :
    endpoint.Follows (endpoint.preparePlan source enabled later) (endpoint.prepare source)
      channel := by
  unfold prepare
  extract_lets parameters configure
  have hconfigure (written : Channel κ)
      (hwritten : endpoint.registers.Grants endpoint.patternPlan channel.card written.card) :
      endpoint.Follows (endpoint.debugPlan enabled ++ .write (.setDataSource source) ::
        endpoint.resetPlan endpoint.startLevel later) (configure ()) written := by
    apply (follows_ensureDebugMode (hreads.first _ hwritten)).bind
    intro _ ensured hensured
    apply Follows.access_bind
    intro _ card hperform
    have hselected : endpoint.registers.Grants (endpoint.selectPlan source enabled)
        channel.card card :=
      hwritten.append (hensured.append (.cons hperform (.nil card)))
    apply Follows.modify_bind rfl
    apply Follows.modify_bind rfl
    rw [← List.append_nil (endpoint.resetPlan endpoint.startLevel later)]
    apply Follows.bind
    · exact follows_resetCard endpoint.startLevel_ne_nothing (hreads.second card hselected)
    · intro _ reset _
      exact .modify rfl
  have hplan : endpoint.preparePlan source enabled later = endpoint.patternPlan ++
      (endpoint.debugPlan enabled ++ .write (.setDataSource source) ::
        endpoint.resetPlan endpoint.startLevel later) := by
    simp only [preparePlan, selectPlan, List.append_assoc, List.singleton_append]
  rw [hplan]
  by_cases hgenerator : parameters.generatorEnabled = true
  · have hpattern : endpoint.patternPlan = [.write (.setGeneratorPattern
        parameters.generatorPattern parameters.dataSize parameters.randomSize)] :=
      if_pos hgenerator
    rw [if_pos hgenerator, hpattern]
    apply Follows.access_bind
    intro _ card hperform
    apply hconfigure
    rw [hpattern]
    exact .cons hperform (.nil card)
  · have hpattern : endpoint.patternPlan = [] := if_neg hgenerator
    rw [if_neg hgenerator, hpattern]
    apply hconfigure
    rw [hpattern]
    exact .nil channel.card

end Endpoint

end DmaReadout
