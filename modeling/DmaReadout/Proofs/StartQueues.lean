import DmaReadout.Channel.Batch
import DmaReadout.Proofs.StartCourse

/-!
# The queues in a start

A start clears all queues at once, and only when the card was reset. If it fails before that, the
consumer still finds what an earlier stop has collected; if it fails later, nothing is left.
-/

namespace DmaReadout

open Access.Kind (preparing gating)

variable {κ : Type}

namespace Pipeline

lemma pop_error {pipeline : Pipeline} {e : ReadoutError} (h : pipeline.pop = .error e) :
    pipeline.ready.toList = [] ∧ e = .queueEmpty := by
  unfold pop at h
  cases hempty : pipeline.ready.isEmpty with
  | true =>
    rw [BoundedQueue.pop_eq_error hempty] at h
    exact ⟨BoundedQueue.toList_of_isEmpty hempty, (Except.error.inj h).symm⟩
  | false =>
    obtain ⟨superpage, ready, hpop⟩ := BoundedQueue.exists_pop hempty
    rw [hpop] at h
    cases h

/-- Popping until that is refused takes all that is ready, oldest first. -/
theorem popAll_takes (pipeline : Pipeline) :
    pipeline.popAll.1 = pipeline.ready.toList ∧ pipeline.popAll.2.1 = .queueEmpty := by
  fun_induction popAll pipeline with
  | case1 pipeline e hpop =>
    obtain ⟨hready, he⟩ := pop_error hpop
    exact ⟨hready.symm, he⟩
  | case2 pipeline superpage rest hpop superpages e last hrest ih =>
    rw [hrest] at ih
    exact ⟨(congrArg _ ih.1).trans (popped_of_pop hpop).taken.symm, ih.2⟩

end Pipeline

namespace Channel

/-- The channel is stopped, with the queues that it had, and the consumer can empty them. -/
structure QueuesKept (channel last : Channel κ) : Prop where
  lifecycle : last.lifecycle = .stopped
  pipeline : last.pipeline = channel.pipeline
  popAll : last.popAll.1 = (channel.pipeline.ready.toList, .queueEmpty)

structure QueuesCleared (channel last : Channel κ) : Prop where
  pipeline : last.pipeline = channel.pipeline.clear
  blank : last.pipeline.Blank

variable {channel last : Channel κ}

lemma QueuesKept.of_pipeline (hlifecycle : last.lifecycle = .stopped)
    (hpipeline : last.pipeline = channel.pipeline) : QueuesKept channel last where
  lifecycle := hlifecycle
  pipeline := hpipeline
  popAll := by
    obtain ⟨hsuperpages, hrefusal⟩ := last.pipeline.popAll_takes
    rw [← hpipeline]
    exact Prod.ext hsuperpages hrefusal

lemma QueuesCleared.of_pipeline (h : last.pipeline = channel.pipeline.clear) :
    QueuesCleared channel last where
  pipeline := h
  blank := by
    rw [h]
    exact Pipeline.blank_clear _

end Channel

open Channel (QueuesKept QueuesCleared)

lemma find?_granted (plan : List Access) :
    (granted plan).find? (fun past => !past.succeeded) = none := by
  rw [List.find?_eq_none]
  intro past hpast
  rw [succeeded_of_mem_granted past hpast]
  decide

lemma find?_granted_append (done : List Access) (access : Access) (rest : AccessHistory) :
    (granted done ++ ⟨access, false⟩ :: rest).find? (fun past => !past.succeeded) =
      some ⟨access, false⟩ := by
  rw [List.find?_append, find?_granted, Option.none_or, List.find?_cons_of_pos rfl]

/-- Whatever was left in the queues of a stopped channel, and whatever the card does: a start that
finds no source changes nothing, and otherwise the first access that fails decides. If that is one
of those before the queues are cleared, the channel is as it was; if it is one of those after it,
or there is none, all queues are empty. -/
theorem start_keeps_or_clears (endpoint : Endpoint κ) (channel : Channel κ)
    (hstopped : channel.lifecycle = .stopped) :
    let parameters := endpoint.parameters
    let made := Operation.start.accesses endpoint channel
    let last := lastState endpoint.start channel
    match DataSource.resolve parameters.family parameters.generatorEnabled parameters.loopback with
    | .error e =>
      answer endpoint.start channel = .error e ∧ made = [] ∧ QueuesKept channel last
    | .ok _ =>
      match made.find? fun past => !past.succeeded with
      | none =>
        answer endpoint.start channel = .ok () ∧ last.lifecycle = .running ∧
          QueuesCleared channel last
      | some past =>
        (∃ fault, answer endpoint.start channel = .error (.hardware fault)) ∧
          last.lifecycle = .stopped ∧
          (past.access.kind ∈ preparing ∧ QueuesKept channel last ∨
            past.access.kind ∈ gating ∧ QueuesCleared channel last) := by
  intro parameters made last
  split
  next e hresolve =>
    obtain ⟨hanswer, hmade, hstanding⟩ := Endpoint.start_unresolved hstopped hresolve
    refine ⟨hanswer, hmade, .of_pipeline ?_ (Channel.pipeline_of_standing hstanding)⟩
    exact (Channel.lifecycle_of_standing hstanding).trans hstopped
  next source hresolve =>
    obtain ⟨enabled, later, hreads⟩ := endpoint.exists_startReads source channel.card
    rcases Endpoint.start_course hstopped hresolve hreads with
      ⟨hanswer, hmade, hrunning, hpipeline⟩ | ⟨e, access, hanswer, habandons, hlifecycle, hqueues⟩
    · have hfind : made.find? (fun past => !past.succeeded) = none :=
        (congrArg _ hmade).trans (find?_granted _)
      rw [hfind]
      exact ⟨hanswer, hrunning, .of_pipeline hpipeline⟩
    · obtain ⟨done, fault, stopped, rest, -, -, hmade, rfl⟩ := habandons
      have hfind : made.find? (fun past => !past.succeeded) = some ⟨access, false⟩ :=
        (congrArg _ hmade).trans (find?_granted_append done access rest)
      rw [hfind]
      refine ⟨⟨fault, hanswer⟩, hlifecycle, ?_⟩
      rcases hqueues with ⟨hkind, hpipeline⟩ | ⟨hkind, hpipeline⟩
      · exact .inl ⟨hkind, .of_pipeline hlifecycle hpipeline⟩
      · exact .inr ⟨hkind, .of_pipeline hpipeline⟩

/-- An earlier run has collected a superpage. It is kept when the reset of the card fails, and is
gone when the arming of the buffer does. -/
theorem start_keeps_or_clears_collected :
    let superpage : Superpage := ⟨0, 8192, 0, false, 0⟩
    let call operation := Event.call ⟨operation, twoLinks.buffer⟩
    let collected (script : FaultScript) :=
      twoLinks.afterEvents (twoLinksChannel (script, {}))
        [call .start, call (.push superpage), call .stop]
    let unreset := collected [⟨.resetCard, 1, 1, .because "reset"⟩]
    let unarmed := collected [⟨.setBufferReady, 2, 1, .because "ready"⟩]
    unreset.lifecycle = .stopped ∧ unreset.pipeline.ready.length = 1 ∧
      QueuesKept unreset (lastState twoLinks.start unreset) ∧
      unarmed.lifecycle = .stopped ∧ unarmed.pipeline.ready.length = 1 ∧
      QueuesCleared unarmed (lastState twoLinks.start unarmed) := by
  intro superpage call collected unreset unarmed
  have hunreset : unreset.lifecycle = .stopped := by decide +kernel
  have hunarmed : unarmed.lifecycle = .stopped := by decide +kernel
  have hkept := start_keeps_or_clears twoLinks unreset hunreset
  have hcleared := start_keeps_or_clears twoLinks unarmed hunarmed
  have hreset : (Operation.start.accesses twoLinks unreset).find? (fun past => !past.succeeded) =
      some ⟨.write .resetCard, false⟩ := by
    decide +kernel
  have harm : (Operation.start.accesses twoLinks unarmed).find? (fun past => !past.succeeded) =
      some ⟨.write (.setBufferReady true), false⟩ := by
    decide +kernel
  dsimp only at hkept hcleared
  rw [hreset] at hkept
  rw [harm] at hcleared
  refine ⟨hunreset, by decide +kernel, ?_, hunarmed, by decide +kernel, ?_⟩
  · rcases hkept with ⟨-, -, ⟨-, hkept⟩ | ⟨hkind, -⟩⟩
    · exact hkept
    · exact absurd hkind (by decide)
  · rcases hcleared with ⟨-, -, ⟨hkind, -⟩ | ⟨-, hcleared⟩⟩
    · exact absurd hkind (by decide)
    · exact hcleared

end DmaReadout
