import DmaReadout.Proofs.DrainOutcome
import DmaReadout.Proofs.SimulatedRuns

/-!
# Which link a drain names

A drain that leaves superpages behind names a link in its error, with the number of superpages that
this link has kept. It goes through the links in turn, but slots that are missing anywhere count
against the first link already. So it names the first link, whether that has kept any or not.
-/

namespace DmaReadout

variable {κ : Type}

namespace Pipeline

/-- The first link that keeps superpages. -/
def firstKeeper? (pipeline : Pipeline) : Option Link :=
  pipeline.links.find? fun link => !link.queue.isEmpty

/-- A link that really keeps superpages is named, the first of them, with their number. -/
def Diagnosed (pipeline : Pipeline) (id : LinkId) (remaining : Nat) : Prop :=
  0 < remaining ∧
    pipeline.firstKeeper?.map (fun link => (link.id, link.pending)) = some (id, remaining)

instance (pipeline : Pipeline) (id : LinkId) (remaining : Nat) :
    Decidable (pipeline.Diagnosed id remaining) :=
  inferInstanceAs (Decidable (_ ∧ _))

/-- Superpages are left behind, and the first of all links is blamed. -/
structure BlamesFirst (pipeline : Pipeline) (id : LinkId) (remaining slots capacity : Nat) :
    Prop where
  exists_first : ∃ first, pipeline.links.head? = some first ∧ first.id = id ∧
    first.pending = remaining
  left : 0 < pipeline.pending
  slots : slots = capacity - pipeline.pending
  capacity : capacity = pipeline.transferCapacity
  /-- The blame is right if the first link has kept any superpages at all. -/
  diagnosed_iff : pipeline.Diagnosed id remaining ↔ 0 < remaining

end Pipeline

/-- If this is an incomplete drain, then the first link is blamed for it. -/
def ReadoutError.BlamesFirst (e : ReadoutError) (pipeline : Pipeline) : Prop :=
  ∀ id remaining slots capacity, e = .drainIncomplete id remaining slots capacity →
    pipeline.BlamesFirst id remaining slots capacity

/-- The final look at the queues finds fault with the first link if with any. -/
lemma Balanced.blamesFirst {pipeline : Pipeline} (h : Balanced pipeline) {e : ReadoutError}
    (hcheck : pipeline.checkDrained = .error e) : e.BlamesFirst pipeline := by
  rintro id remaining slots capacity rfl
  have hpending : pipeline.pending ≠ 0 := by
    intro hpending
    cases (h.checkDrained hpending).symm.trans hcheck
  obtain ⟨first, hfirst, herror⟩ := h.exists_undrained hpending
  obtain ⟨rfl, rfl, rfl, rfl⟩ :=
    ReadoutError.drainIncomplete.inj (Except.error.inj (hcheck.symm.trans herror))
  refine ⟨⟨first, hfirst, rfl, rfl⟩, Nat.pos_of_ne_zero hpending, rfl, rfl, And.left, ?_⟩
  intro hkept
  obtain ⟨links, hlinks⟩ := List.head?_eq_some_iff.1 hfirst
  have hkeeps : (!first.queue.isEmpty) = true := by
    rw [Bool.not_eq_true', BoundedQueue.isEmpty, beq_eq_false_iff_ne]
    exact Nat.ne_of_gt hkept
  have hkeeper : pipeline.firstKeeper? = some first := by
    rw [Pipeline.firstKeeper?, hlinks, List.find?_cons, hkeeps]
  refine ⟨hkept, ?_⟩
  rw [hkeeper, Option.map_some]

namespace Endpoint

lemma drain_blames (endpoint : Endpoint κ) (channel : Channel κ) (h : Balanced channel.pipeline) :
    Ensures endpoint.drain channel (fun _ _ => True)
      (fun e last => e.BlamesFirst last.pipeline) := by
  obtain ⟨counts, fault?, hcounted⟩ := CountsUntil.exists_of_replies
    (endpoint.registers.counterReplies (channel.pipeline.links.map Link.id) channel.card)
  apply (ensures_drain_counted hcounted).mono
  · intro moved last _
    trivial
  · rintro e last ⟨moves, hadvanced, hcause⟩
    cases fault? with
    | some fault =>
      rintro id remaining slots capacity rfl
      cases hcause
    | none => exact (h.advance hadvanced).blamesFirst hcause

lemma stop_blames (endpoint : Endpoint κ) (channel : Channel κ) (h : Balanced channel.pipeline) :
    Ensures endpoint.stop channel (fun _ _ => True)
      (fun e last => e.BlamesFirst last.pipeline) := by
  unfold stop
  rw [ensures_bind, ensures_get]
  cases channel.lifecycle with
  | running =>
    dsimp only
    rw [Channel.ensures_transition]
    unfold disarmAndDrain write
    rw [ensures_bind, ensures_access]
    refine ⟨fun _ disarmed _ => ?_, fun fault disarmed _ => nofun⟩
    rw [ensures_bind, ensures_access]
    refine ⟨fun _ halted _ => ?_, fun fault halted _ => nofun⟩
    rw [ensures_bind]
    apply (endpoint.drain_blames { channel with lifecycle := .stopping, card := halted } h).mono
    · intro moved last _
      trivial
    · intro e last hblames
      exact hblames
  | stopped => trivial
  | starting => exact nofun
  | stopping => exact nofun
  | resetting => exact nofun

/-- A drain that is incomplete, be it part of a stop or not, names the first link of the channel and
the number of superpages left there. That is the first link that keeps any if this number is not
zero, and otherwise the superpages are elsewhere. -/
theorem incomplete_drain_blames_first (endpoint : Endpoint κ) :
    (∀ (channel : Channel κ) (ids : List LinkId) (linkCapacity readyCapacity : Nat)
        (transfers : List Transfer) (id : LinkId) (remaining slots capacity : Nat),
      let opened := { channel with pipeline := .idle ids linkCapacity readyCapacity }
      let before := endpoint.afterTransfers opened transfers
      answer endpoint.drain before = .error (.drainIncomplete id remaining slots capacity) →
        (lastState endpoint.drain before).pipeline.BlamesFirst id remaining slots capacity) ∧
    ∀ (card : κ) (channel : Channel κ), endpoint.openChannel card = .ok channel →
      ∀ (calls : List Call) (id : LinkId) (remaining slots capacity : Nat),
        let before := endpoint.afterCalls channel calls
        answer endpoint.stop before = .error (.drainIncomplete id remaining slots capacity) →
          (lastState endpoint.stop before).pipeline.BlamesFirst id remaining slots capacity := by
  constructor
  · intro channel ids linkCapacity readyCapacity transfers id remaining slots capacity opened before
      hanswer
    have hbalanced : Balanced before.pipeline :=
      afterTransfers_balanced endpoint (Balanced.idle ids linkCapacity readyCapacity) transfers
    rcases (endpoint.drain_blames before hbalanced).answered with
      ⟨moved, hok, -⟩ | ⟨e, herror, hblames⟩
    · cases hok.symm.trans hanswer
    · exact hblames _ _ _ _ (Except.error.inj (herror.symm.trans hanswer))
  · intro card channel hopen calls id remaining slots capacity before hanswer
    obtain ⟨links, hopened⟩ := exists_opened hopen
    have hbalanced : Balanced before.pipeline := afterCalls_balanced hopened.balanced calls
    rcases (endpoint.stop_blames before hbalanced).answered with ⟨_, hok, -⟩ | ⟨e, herror, hblames⟩
    · cases hok.symm.trans hanswer
    · exact hblames _ _ _ _ (Except.error.inj (herror.symm.trans hanswer))

/-- Two superpages for each of two links. -/
def fourPushes : List Transfer :=
  threePushes ++ [.push ⟨24, 8, 0, false, 4⟩ 1 0]

/-- The same on a channel that is started. -/
def startAndPush : List Call :=
  [.start, .push ⟨0, 8192, 0, false, 1⟩, .push ⟨8192, 8192, 0, false, 2⟩,
    .push ⟨16384, 8192, 0, false, 3⟩, .push ⟨24576, 8192, 0, false, 4⟩].map
      fun operation => ⟨operation, twoLinks.buffer⟩

/-- The first link is blamed rightly for one superpage of its own, and wrongly for one of the second
link. -/
theorem incomplete_drain_blames_first_twice :
    let emptied := twoLinks.afterTransfers (twoLinksChannel (countedOnFirst [] 1)) fourPushes
    let card : ScriptedCard := ([], { completion := .manual })
    let before := twoLinks.afterCalls (twoLinksChannel card) startAndPush
    let drained := (lastState twoLinks.drain emptied).pipeline
    let stopped := (lastState twoLinks.stop before).pipeline
    answer twoLinks.drain emptied = .error (.drainIncomplete ⟨0⟩ 0 3 4) ∧
      drained.BlamesFirst ⟨0⟩ 0 3 4 ∧ ¬drained.Diagnosed ⟨0⟩ 0 ∧
      twoLinks.openChannel card = .ok (twoLinksChannel card) ∧
      answer twoLinks.stop before = .error (.drainIncomplete ⟨0⟩ 1 2 4) ∧
      stopped.BlamesFirst ⟨0⟩ 1 2 4 ∧ stopped.Diagnosed ⟨0⟩ 1 := by
  intro emptied card before drained stopped
  have hopen : twoLinks.openChannel card = .ok (twoLinksChannel card) := openChannel_twoLinks card
  have hdrain : answer twoLinks.drain emptied = .error (.drainIncomplete ⟨0⟩ 0 3 4) := by
    decide +kernel
  have hstop : answer twoLinks.stop before = .error (.drainIncomplete ⟨0⟩ 1 2 4) := by
    decide +kernel
  obtain ⟨hdrains, hstops⟩ := incomplete_drain_blames_first twoLinks
  have hdrained : drained.BlamesFirst ⟨0⟩ 0 3 4 :=
    hdrains (twoLinksChannel (countedOnFirst [] 1)) [⟨0⟩, ⟨1⟩] 2 4 fourPushes _ _ _ _ hdrain
  have hstopped : stopped.BlamesFirst ⟨0⟩ 1 2 4 :=
    hstops card (twoLinksChannel card) hopen startAndPush _ _ _ _ hstop
  exact ⟨hdrain, hdrained, fun hdiagnosed => Nat.lt_irrefl 0 hdiagnosed.1, hopen, hstop, hstopped,
    hstopped.diagnosed_iff.2 Nat.one_pos⟩

/-- The card completes one of the two superpages of the first link. Stopping takes both, but leaves
one on the second link, and yet it names the first. -/
theorem wrong_link_named :
    let card : ScriptedCard := ([], { completion := .manual })
    let events := startAndPush.map Event.call ++ [.control (.complete ⟨0⟩ 1)]
    let before := twoLinks.afterEvents (twoLinksChannel card) events
    let last := (lastState twoLinks.stop before).pipeline
    twoLinks.openChannel card = .ok (twoLinksChannel card) ∧
      answer twoLinks.stop before = .error (.drainIncomplete ⟨0⟩ 0 3 4) ∧
      last.links.map Link.pending = [0, 1] ∧ ¬last.Diagnosed ⟨0⟩ 0 ∧ last.Diagnosed ⟨1⟩ 1 := by
  intro card events before last
  refine ⟨openChannel_twoLinks card, ?_, ?_, ?_, ?_⟩ <;> decide +kernel

end Endpoint

end DmaReadout
