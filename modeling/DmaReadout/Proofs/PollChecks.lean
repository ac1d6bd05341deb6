import DmaReadout.Proofs.CounterReads
import DmaReadout.Proofs.Lockstep

/-!
# Polls that are given up

A fill hears the cards on all links before it moves anything. If a link objects, then the fill has
changed nothing but the card and the journal, and it might as well not have happened.

The counts that a poll hears may be kept in an array from one fill to the next. A poll that is given
up leaves a mixture of new and old counts there, which no later fill looks at.
-/

namespace DmaReadout

open Channel (Alike)

variable {κ : Type}

/-- The count that a link objects to is ahead of its own by more than is outstanding. -/
lemma Link.lt_of_objection {answer : Link × Except Fault UInt32} {id : LinkId}
    {count counter : UInt32} {pending : Nat}
    (h : objection? answer = some (.protocolViolation id count counter pending)) :
    pending < (count.toNat + UInt32.size - counter.toNat) % UInt32.size := by
  obtain ⟨link, reply⟩ := answer
  cases reply with
  | error fault => cases h
  | ok hardwareCount =>
    rw [objection?] at h
    split at h
    · rename_i hexcess
      cases h
      rw [← toNat_arrivals]
      exact hexcess
    · cases h

namespace Endpoint

variable {endpoint : Endpoint κ}

/-- A poll that writes the counts over those in an array, and gives them with the error that ended
it. -/
def pollInto (endpoint : Endpoint κ) :
    List Link → List UInt32 → ChannelM κ (List UInt32 × Option ReadoutError)
  | link :: links, stale :: counts => do
    match ← endpoint.perform (.superpageCount link.id) with
    | .error fault => return (stale :: counts, some (.hardware fault))
    | .ok count =>
      if (link.arrivals count).toNat > link.pending then
        Channel.note (.excessArrivals link.id count link.counter link.pending)
        Channel.count (.protocolViolation link.id)
        return (count :: counts,
          some (.protocolViolation link.id count link.counter link.pending))
      else
        let (counts, e?) ← pollInto endpoint links counts
        return (count :: counts, e?)
  | _, counts => return (counts, none)

/-- A fill with an array that holds the counts of some earlier poll. Gives the array as it leaves
it, and the result. -/
def collectInto (endpoint : Endpoint κ) (counts : List UInt32) :
    ChannelM κ (List UInt32 × Except ReadoutError Nat) := do
  let links := (← get).pipeline.links
  let (counts, e?) ← endpoint.pollInto links counts
  match e? with
  | some e => return (counts, .error e)
  | none => return (counts, .ok (← Channel.advance (Link.allArrivals links counts)))

/-- A poll gets its arrivals from an array that it has written over. -/
lemma pollArrivals_eq_pollInto (endpoint : Endpoint κ) {links : List Link} {counts : List UInt32}
    (hlength : counts.length = links.length) :
    endpoint.pollArrivals links = (do
      let (counts, e?) ← endpoint.pollInto links counts
      match e? with
      | none => return Link.allArrivals links counts
      | some e => throw e) := by
  induction links generalizing counts with
  | nil =>
    rw [List.length_eq_zero_iff.1 hlength]
    rfl
  | cons link links ih =>
    obtain ⟨stale, counts, rfl⟩ := List.exists_cons_of_length_eq_add_one hlength
    have hrest := @ih counts (Nat.succ.inj hlength)
    rw [pollArrivals, pollInto, access, bind_assoc, bind_assoc]
    congr 1
    funext reply
    cases reply with
    | error fault => rfl
    | ok count =>
      simp only [pure_bind]
      by_cases hexcess : (link.arrivals count).toNat > link.pending
      · rw [if_pos hexcess, if_pos hexcess]
        rfl
      · rw [if_neg hexcess, if_neg hexcess, hrest, bind_assoc, bind_assoc]
        congr 1
        funext written
        obtain ⟨counts, e?⟩ := written
        cases e? <;> rfl

/-- Writing over an array does not fail, and keeps its length. -/
lemma ensures_pollInto (endpoint : Endpoint κ) (links : List Link) (counts : List UInt32)
    (channel : Channel κ) :
    Ensures (endpoint.pollInto links counts) channel
      (fun written _ => written.1.length = counts.length) (fun _ _ => False) := by
  induction links generalizing counts channel with
  | nil => exact rfl
  | cons link links ih =>
    cases counts with
    | nil => exact rfl
    | cons stale counts =>
      rw [pollInto, ensures_bind, ensures_perform]
      intro reply card _
      cases reply with
      | error fault => exact rfl
      | ok count =>
        by_cases hexcess : (link.arrivals count).toNat > link.pending
        · simp only [if_pos hexcess]
          exact rfl
        · simp only [if_neg hexcess]
          rw [ensures_bind]
          apply (ih counts { channel with card }).mono
          · intro written last hlength
            exact congrArg (· + 1) hlength
          · intro e last hfalse
            exact hfalse

/-- Whatever the array holds, a fill with it does what a fill does. -/
theorem exists_collectInto (endpoint : Endpoint κ) (channel : Channel κ) {counts : List UInt32}
    (hlength : counts.length = channel.pipeline.links.length) :
    ∃ written : List UInt32, written.length = counts.length ∧
      endpoint.collectInto counts channel =
        .ok (written, answer endpoint.collect channel) (lastState endpoint.collect channel) := by
  have hpolled := ensures_pollInto endpoint channel.pipeline.links counts channel
  have hcollect := collect_run endpoint channel
  rw [pollArrivals_eq_pollInto endpoint hlength, bind_assoc] at hcollect
  cases hpoll : endpoint.pollInto channel.pipeline.links counts channel with
  | error e last => exact (hpolled.of_error hpoll).elim
  | ok written last =>
    obtain ⟨written, e?⟩ := written
    refine ⟨written, hpolled.of_ok hpoll, ?_⟩
    have hinto : endpoint.collectInto counts channel = _ :=
      (bind_of_ok rfl).trans (bind_of_ok hpoll)
    rw [bind_of_ok hpoll] at hcollect
    unfold answer lastState
    rw [hcollect, hinto]
    cases e? with
    | some e => rfl
    | none =>
      dsimp only
      rw [pure_bind]
      have hmoves : Ensures (Channel.advance (Link.allArrivals channel.pipeline.links written))
          last (fun _ _ => True) (fun _ _ => False) :=
        Channel.ensures_advance fun _ _ _ => trivial
      cases hadvance : Channel.advance (Link.allArrivals channel.pipeline.links written) last with
      | ok moved after => exact bind_of_ok hadvance
      | error e after => exact (hmoves.of_error hadvance).elim

/-- A fill of which the channel remembers nothing but its journal. -/
lemma collect_alike (endpoint : Endpoint κ) :
    Lockstep (Alike Eq False) endpoint.collect endpoint.collect := by
  have hmatches : endpoint.Matches Eq endpoint.registers := by
    rintro access - card _ rfl reply next hperform
    exact ⟨next, hperform, rfl⟩
  exact hmatches.inStep.coupled.collect

lemma failure?_collect (endpoint : Endpoint κ) (channel : Channel κ) :
    failure? endpoint.collect channel =
      (endpoint.polled channel.pipeline.links channel.card).findSome? Link.objection? := by
  rcases (ensures_collect_polled endpoint channel).outcome with
    ⟨moved, hfailure, hnone, -⟩ | ⟨e, hfailure, hsome, -⟩
  · rw [hfailure, hnone]
  · rw [hfailure, hsome]

lemma card_collect (endpoint : Endpoint κ) (channel : Channel κ) :
    (lastState endpoint.collect channel).card = endpoint.afterAnswers channel.card
      (Link.heard (endpoint.polled channel.pipeline.links channel.card)) := by
  rcases (ensures_collect_polled endpoint channel).outcome with
    ⟨moved, -, -, counts, moves, -, -, -, hlast⟩ | ⟨e, -, -, hlast⟩
  · rw [hlast]
  · rw [hlast]

/-- A fill that fails has changed nothing but the card and the journal. -/
lemma eq_of_collect_failed {channel : Channel κ} (h : failure? endpoint.collect channel ≠ none) :
    let last := lastState endpoint.collect channel
    last = { channel with card := last.card, journal := last.journal } := by
  rcases (ensures_collect_polled endpoint channel).outcome with
    ⟨moved, hfailure, -⟩ | ⟨e, -, -, hlast⟩
  · exact absurd hfailure h
  · dsimp only
    rw [hlast]

/-- The counter reads that a recorder sees in a fill. -/
lemma reads_collect (endpoint : Endpoint κ) (channel : Channel κ) :
    (lastState endpoint.recorded.collect (channel.withHistory [])).card.1 =
      (Link.heard (endpoint.polled channel.pipeline.links channel.card)).map fun answer =>
        ⟨.superpageCount answer.1.id, answer.2.isOk⟩ := by
  rw [card_collect]
  change (endpoint.recorded.afterAnswers ([], channel.card)
    (Link.heard (endpoint.recorded.polled channel.pipeline.links ([], channel.card)))).1 = _
  rw [polled_recorded, history_afterAnswers]
  rfl

/-- A fill reads the counters of the links in turn, up to the first link that objects to what it
hears, because the read has failed or because the count is ahead by more than is outstanding
there. It fails with this objection, and succeeds if there is none. If it fails, then it leaves
all queues alone, and the next fill, whatever has become of the card, does what it would have done
without. An array that the counts are kept in makes no difference, whatever it holds. -/
theorem collect_checks_all (endpoint : Endpoint κ) (channel : Channel κ) :
    let links := channel.pipeline.links
    let answers := endpoint.polled links channel.card
    let error? := failure? endpoint.collect channel
    let last := lastState endpoint.collect channel
    ((lastState endpoint.recorded.collect (channel.withHistory [])).card.1 =
        (Link.heard answers).map fun answer => ⟨.superpageCount answer.1.id, answer.2.isOk⟩) ∧
      error? = answers.findSome? Link.objection? ∧
      (error? = none ↔ ∀ answer ∈ answers, Link.objection? answer = none) ∧
      (∀ id count counter pending,
        error? = some (.protocolViolation id count counter pending) →
          pending < (count.toNat + UInt32.size - counter.toNat) % UInt32.size) ∧
      (error? ≠ none → last = { channel with card := last.card, journal := last.journal } ∧
        ∀ card, let next := lastState endpoint.collect { last with card }
          let next' := lastState endpoint.collect { channel with card }
          answer endpoint.collect { last with card } =
              answer endpoint.collect { channel with card } ∧
            next.pipeline = next'.pipeline ∧ next.card = next'.card) ∧
      ∀ counts : List UInt32, counts.length = links.length → ∃ written : List UInt32,
        written.length = counts.length ∧ endpoint.collectInto counts channel =
          .ok (written, answer endpoint.collect channel) last := by
  intro links answers error? last
  have hfailure : error? = answers.findSome? Link.objection? := failure?_collect endpoint channel
  refine ⟨reads_collect endpoint channel, hfailure, ?_, ?_, ?_, ?_⟩
  · rw [hfailure, List.findSome?_eq_none_iff]
  · intro id count counter pending herror
    rw [hfailure] at herror
    obtain ⟨answer, -, hobjection⟩ := List.exists_of_findSome?_eq_some herror
    exact Link.lt_of_objection hobjection
  · intro herror
    have hlast : last = { channel with card := last.card, journal := last.journal } :=
      eq_of_collect_failed herror
    refine ⟨hlast, ?_⟩
    intro card next next'
    have halike : Alike Eq False { channel with card } { last with card } := by
      rw [hlast]
      exact ⟨rfl, rfl, rfl, nofun⟩
    have hnext : Alike Eq False next' next := (collect_alike endpoint).lastState halike
    exact ⟨(collect_alike endpoint).answer_eq halike, hnext.pipeline, hnext.card.symm⟩
  · intro counts hlength
    exact exists_collectInto endpoint channel hlength

/-- One superpage is under way on the first of two links. The card counts it, but has counted
backwards on the second link. -/
def countedBackwards : Channel ScriptedCard :=
  let calls := [.start, .push ⟨0, 8192, 0, false, 0⟩].map fun operation =>
    ⟨operation, twoLinks.buffer⟩
  { twoLinks.afterCalls (twoLinksChannel ([], {})) calls with
    card := ([], {
      completion := .manual
      counters := ⟨[(⟨0⟩, ⟨1, 1⟩), (⟨1⟩, ⟨0, 0xffffffff⟩)]⟩ }) }

/-- The second link objects, after a new count was kept for the first. Once the card counts right,
the superpage arrives. -/
theorem collect_checks_all_backwards :
    let last := lastState twoLinks.collect countedBackwards
    let mended : ScriptedCard := ([], { counters := ⟨[(⟨0⟩, ⟨1, 1⟩)]⟩ })
    failure? twoLinks.collect countedBackwards =
        some (.protocolViolation ⟨1⟩ 0xffffffff 0 0) ∧
      0 < (0xffffffff + UInt32.size - 0) % UInt32.size ∧
      last.pipeline = countedBackwards.pipeline ∧
      failure? twoLinks.collect { last with card := mended } = none ∧
      answer twoLinks.collect { last with card := mended } =
        answer twoLinks.collect { countedBackwards with card := mended } ∧
      ∃ written : List UInt32, written.length = 2 ∧
        twoLinks.collectInto [3, 0] countedBackwards =
          .ok (written, answer twoLinks.collect countedBackwards) last := by
  have hfailure : failure? twoLinks.collect countedBackwards =
      some (.protocolViolation ⟨1⟩ 0xffffffff 0 0) := by decide +kernel
  obtain ⟨-, -, -, hexcess, hfailed, harray⟩ := collect_checks_all twoLinks countedBackwards
  obtain ⟨hlast, hnext⟩ := hfailed (by rw [hfailure]; exact Option.some_ne_none _)
  refine ⟨hfailure, hexcess _ _ _ _ hfailure, ?_, by decide +kernel, (hnext _).1, ?_⟩
  · rw [hlast]
  · exact harray [3, 0] (by decide +kernel)

end Endpoint

end DmaReadout
