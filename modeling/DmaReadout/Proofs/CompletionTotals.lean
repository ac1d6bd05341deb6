import DmaReadout.Proofs.Conservation
import DmaReadout.Proofs.SimulatedRuns
import DmaReadout.Proofs.WrappedCounters
import Mathlib.Data.List.Nodup

/-!
# What the consumer may see

Totals that do not wrap, kept for a session, which begins with a start that succeeds on a
stopped channel. While the channel runs, no more superpages leave a link than the card has
completed there. The stop that ends the session may take one more from each link, and nothing
leaves a link until the channel runs again.
-/

namespace DmaReadout

open Link (Shed departures)
open Pipeline (Advanced Enqueued)
open SimulatedCard (Completed)

variable {γ : Type}

/-- A channel on a simulated card, with the totals of its session for every link. -/
structure Session (γ : Type) where
  channel : Channel (γ × SimulatedCard)
  /-- The superpages that left the link for the ready queue. -/
  moved : LinkId → Nat := fun _ => 0
  /-- The superpages that the card was given. -/
  given : LinkId → Nat := fun _ => 0
  /-- The superpages that the card has completed. -/
  completed : LinkId → Nat := fun _ => 0

/-- How many superpages have left a link, from one state of the queues to another. -/
def Pipeline.movedOff (before after : Pipeline) (id : LinkId) : Nat :=
  (onLink id (departures before.links after.links)).length

/-- The number of superpages that the operation moves from a link to the ready queue. A start
may forget some, but moves none. -/
def Operation.moved {κ : Type} (id : LinkId) (before after : Channel κ) : Operation → Nat
  | start => 0
  | _ => before.pipeline.movedOff after.pipeline id

/-- The call starts a stopped channel, with success. -/
def Call.begins (endpoint : Endpoint (γ × SimulatedCard)) (channel : Channel (γ × SimulatedCard))
    (call : Call) : Bool :=
  match call.operation, channel.lifecycle, (endpoint.during call).start channel with
  | .start, .stopped, .ok _ _ => true
  | _, _, _ => false

namespace Session

/-- The channel has become `last`, and its counters have advanced accordingly. -/
def proceed (session : Session γ) (last : Channel (γ × SimulatedCard)) : Session γ where
  channel := last
  moved id := session.moved id + session.channel.pipeline.movedOff last.pipeline id
  given id := session.given id + (last.card.2.pushed id - session.channel.card.2.pushed id).toNat
  -- An advance by a full round of the counter goes unseen, which only tightens the bound.
  completed id := session.completed id +
    (last.card.2.arrived id - session.channel.card.2.arrived id).toNat

/-- A call on a channel that is not running may reset the card, so that the counters of the card
tell nothing. What it moves off the links counts nevertheless. -/
def afterCall (endpoint : Endpoint (γ × SimulatedCard)) (session : Session γ) (call : Call) :
    Session γ :=
  let last := endpoint.afterCall session.channel call
  if call.begins endpoint session.channel then { channel := last }
  else if session.channel.lifecycle = .running then session.proceed last
  else { session with
    channel := last
    moved id := session.moved id + call.operation.moved id session.channel last }

def after (endpoint : Endpoint (γ × SimulatedCard)) (session : Session γ) : Event → Session γ
  | .call call => session.afterCall endpoint call
  | .control control =>
    session.proceed (endpoint.afterEvent session.channel (.control control))

def run (endpoint : Endpoint (γ × SimulatedCard)) (session : Session γ) (events : List Event) :
    Session γ :=
  events.foldl (after endpoint) session

lemma channel_after (endpoint : Endpoint (γ × SimulatedCard)) (session : Session γ)
    (event : Event) :
    (session.after endpoint event).channel = endpoint.afterEvent session.channel event := by
  cases event with
  | control control => rfl
  | call call =>
    unfold after afterCall
    dsimp only
    split
    · rfl
    · split
      · rfl
      · rfl

/-- Keeping the totals does not disturb the channel. -/
theorem channel_run (endpoint : Endpoint (γ × SimulatedCard)) (session : Session γ)
    (events : List Event) :
    (session.run endpoint events).channel = endpoint.afterEvents session.channel events := by
  induction events generalizing session with
  | nil => rfl
  | cons event events ih =>
    have hrest := ih (session.after endpoint event)
    rw [channel_after] at hrest
    exact hrest

end Session

/-- A stopped channel begins to run with a start that succeeds, and in no other way. -/
theorem Call.begins_iff {endpoint : Endpoint (γ × SimulatedCard)}
    {channel : Channel (γ × SimulatedCard)} {call : Call} :
    call.begins endpoint channel = true ↔ call.operation = .start ∧
      channel.lifecycle = .stopped ∧ (endpoint.afterCall channel call).lifecycle = .running := by
  obtain ⟨operation, buffer⟩ := call
  by_cases hstart : operation = .start
  · subst hstart
    have hstanding := (endpoint.during ⟨.start, buffer⟩).start_standing channel
    unfold Endpoint.afterCall lastState Operation.run begins
    dsimp only
    cases hlifecycle : channel.lifecycle with
    | stopped =>
      cases hrun : (endpoint.during ⟨.start, buffer⟩).start channel with
      | ok _ last =>
        rcases hstanding.of_ok hrun with ⟨-, hrunning, -⟩ | ⟨hrunning, -⟩
        · simp [hrunning]
        · rw [hlifecycle] at hrunning
          cases hrunning
      | error e last =>
        rcases hstanding.of_error hrun with ⟨-, hstopped, -⟩ | rfl
        · simp [hstopped]
        · simp [hlifecycle]
    | running => simp
    | starting => simp
    | stopping => simp
    | resetting => simp
  · unfold begins
    simp [hstart]

section MovedOff

variable {before after : Pipeline}

lemma movedOff_of_links (h : after.links = before.links) (id : LinkId) :
    before.movedOff after id = 0 := by
  unfold Pipeline.movedOff
  rw [h, Link.departures_self]
  rfl

/-- What is counted as moved off a link is what the link has lost. -/
lemma movedOff_of_enqueued {place : Nat} {link : Link} {superpage : Superpage}
    (h : Enqueued before place link superpage after) (id : LinkId) :
    before.movedOff after id = 0 := by
  obtain ⟨queue, hqueue, hafter⟩ := h.exists_queue
  have hpending : link.pending ≤ Link.pending { link with queue } := by
    rw [Link.pending_of_push hqueue]
    omega
  unfold Pipeline.movedOff
  rw [hafter, Link.departures_set h.found hpending]
  rfl

lemma shed_movedOff {quotas : List Nat} {moves : List (LinkId × Nat)}
    (h : Advanced before quotas after moves) (hids : (before.links.map Link.id).Nodup) :
    ∀ link' ∈ after.links, ∃ link ∈ before.links,
      Shed link (before.movedOff after link'.id) link' ∧
      ∀ quota : Link → Nat, quotas <+: before.links.map quota →
        before.movedOff after link'.id ≤ quota link := by
  intro link' hlink'
  obtain ⟨link, hlink, count, hshed, hquota⟩ := h.passed.exists_shed link' hlink'
  obtain ⟨same, hsame, hid, hqueue⟩ := onLink_departures h.passed hids link' hlink'
  have heq : same = link := List.inj_on_of_nodup_map hids hsame hlink (hid.trans hshed.id)
  subst heq
  have hcount : before.movedOff after link'.id = count := by
    have hlength := congrArg List.length hqueue
    rw [List.length_append, BoundedQueue.length_toList, BoundedQueue.length_toList, hid]
      at hlength
    have hpending := hshed.pending
    unfold Link.pending at hpending
    unfold Pipeline.movedOff
    omega
  rw [hcount]
  exact ⟨same, hlink, hshed, hquota⟩

lemma movedOff_of_not_mem {id : LinkId} (h : id ∉ before.links.map Link.id) :
    before.movedOff after id = 0 := by
  unfold Pipeline.movedOff
  rw [onLink_eq_nil]
  · rfl
  · rintro entry hentry rfl
    exact h (Link.id_of_mem_departures hentry)

end MovedOff

lemma Operation.moved_of_links {κ : Type} {operation : Operation} {before after : Channel κ}
    (h : operation ≠ .start → after.pipeline.links = before.pipeline.links) (id : LinkId) :
    operation.moved id before after = 0 := by
  cases operation with
  | start => rfl
  | _ => exact movedOff_of_links (h nofun) id

/-- No operation moves anything on a channel that is not running. -/
lemma Effect.moved_eq_zero {operation : Operation} {before after : Channel (γ × SimulatedCard)}
    (h : Effect operation before after) (hbefore : before.lifecycle ≠ .running) (id : LinkId) :
    operation.moved id before after = 0 := by
  refine Operation.moved_of_links (fun hstart => ?_) id
  cases h with
  | looks hstanding _ => rw [Channel.pipeline_of_standing hstanding]
  | idles _ _ hkept => rw [hkept hstart]
  | starts hoperation => exact absurd hoperation hstart
  | pushes hrunning => exact absurd hrunning hbefore
  | polls hrunning => exact absurd hrunning hbefore
  | stops hrunning => exact absurd hrunning hbefore
  | pops _ _ hpopped => exact hpopped.links

namespace Session

variable {endpoint : Endpoint (γ × SimulatedCard)} {session : Session γ}
  {last : Channel (γ × SimulatedCard)}

/-- The counters on both sides are the totals of the session, wrapped. -/
structure Faithful (session : Session γ) : Prop where
  counter : ∀ link ∈ session.channel.pipeline.links,
    link.counter = UInt32.ofNat (session.moved link.id)
  arrived : ∀ id, session.channel.card.2.arrived id = UInt32.ofNat (session.completed id)
  outstanding_le : ∀ id,
    session.completed id + (session.channel.card.2.outstanding id).toNat ≤ session.given id
  moved_le : ∀ id, session.moved id ≤ session.completed id

namespace Faithful

lemma blank {channel : Channel (γ × SimulatedCard)} (hcard : channel.card.2.counters = {})
    {pipeline : Pipeline} (hpipeline : channel.pipeline = pipeline.clear) :
    Faithful { channel } where
  counter link hlink := by
    dsimp only at hlink
    rw [hpipeline] at hlink
    obtain ⟨link, -, rfl⟩ := List.mem_map.1 hlink
    rfl
  arrived id := by
    unfold SimulatedCard.arrived
    rw [hcard]
    rfl
  outstanding_le id := by
    unfold SimulatedCard.outstanding SimulatedCard.pushed SimulatedCard.arrived
    rw [hcard]
    change 0 + ((0 : UInt32) - 0).toNat ≤ 0
    rw [UInt32.sub_self]
    exact Nat.le_refl 0
  moved_le id := Nat.le_refl 0

lemma arrived_proceed (h : session.Faithful) (last : Channel (γ × SimulatedCard)) (id : LinkId) :
    last.card.2.arrived id = UInt32.ofNat ((session.proceed last).completed id) :=
  total_advance (h.arrived id)

lemma outstanding_proceed (h : session.Faithful)
    (hcompleted : Completed session.channel.card.2 last.card.2) (id : LinkId) :
    (session.proceed last).completed id + (last.card.2.outstanding id).toNat ≤
      (session.proceed last).given id := by
  have hle := h.outstanding_le id
  obtain ⟨count, hcount, harrived⟩ := hcompleted.arrived id
  unfold proceed
  unfold SimulatedCard.outstanding at hle hcount ⊢
  dsimp only
  rw [hcompleted.pushed, harrived, UInt32.sub_self]
  exact advance_add_outstanding_le hle hcount

lemma proceed (h : session.Faithful)
    (hlinks : last.pipeline.links = session.channel.pipeline.links)
    (hcompleted : Completed session.channel.card.2 last.card.2) :
    (session.proceed last).Faithful where
  counter link hlink := by
    dsimp only [Session.proceed] at hlink ⊢
    rw [hlinks] at hlink
    rw [movedOff_of_links hlinks, Nat.add_zero]
    exact h.counter link hlink
  arrived := h.arrived_proceed last
  outstanding_le := h.outstanding_proceed hcompleted
  moved_le id := by
    dsimp only [Session.proceed]
    rw [movedOff_of_links hlinks, Nat.add_zero]
    exact Nat.le_add_right_of_le (h.moved_le id)

/-- No link loses more than the card has completed there, but for the slack in its quota. -/
lemma moved_le_of_advanced (h : session.Faithful)
    (hids : (session.channel.pipeline.links.map Link.id).Nodup) {quotas : List Nat}
    {moves : List (LinkId × Nat)} (slack : Nat)
    (hquotas : quotas <+: session.channel.pipeline.links.map fun link =>
      last.card.2.arrivals link + slack)
    (hadvanced : Advanced session.channel.pipeline quotas last.pipeline moves) (id : LinkId) :
    (session.proceed last).moved id ≤ (session.proceed last).completed id + slack := by
  have hle : session.moved id ≤ (session.proceed last).completed id :=
    Nat.le_add_right_of_le (h.moved_le id)
  by_cases hid : id ∈ session.channel.pipeline.links.map Link.id
  · rw [← (Pipeline.Update.advance hadvanced).map_id] at hid
    obtain ⟨link', hlink', rfl⟩ := List.mem_map.1 hid
    obtain ⟨link, hlink, hshed, hquota⟩ := shed_movedOff hadvanced hids link' hlink'
    have hcount := hquota _ hquotas
    unfold SimulatedCard.arrivals Link.arrivals at hcount
    rw [h.arrived_proceed last, h.counter link hlink, ← hshed.id] at hcount
    exact add_le_of_wrapped hle hcount
  · dsimp only [Session.proceed] at hle ⊢
    rw [movedOff_of_not_mem hid]
    omega

lemma polls (h : session.Faithful)
    (hids : (session.channel.pipeline.links.map Link.id).Nodup)
    (hcompleted : Completed session.channel.card.2 last.card.2)
    {moves : List (LinkId × Nat)}
    (hadvanced : Advanced session.channel.pipeline
      (session.channel.pipeline.links.map last.card.2.arrivals) last.pipeline moves) :
    (session.proceed last).Faithful where
  counter link' hlink' := by
    obtain ⟨link, hlink, hshed, _⟩ := shed_movedOff hadvanced hids link' hlink'
    rw [hshed.counter, h.counter link hlink, ← hshed.id, ← UInt32.ofNat_add]
    rfl
  arrived := h.arrived_proceed last
  outstanding_le := h.outstanding_proceed hcompleted
  moved_le id := h.moved_le_of_advanced hids 0 (List.prefix_refl _) hadvanced id

lemma pushes (h : session.Faithful)
    (hids : (session.channel.pipeline.links.map Link.id).Nodup) {place : Nat} {link : Link}
    {superpage : Superpage} {pages : UInt32} {busAddress : UInt64}
    (henqueued : Enqueued session.channel.pipeline place link superpage last.pipeline)
    (hcard : last.card.2 =
      session.channel.card.2.after (.write (.pushSuperpage link.id pages busAddress))) :
    (session.proceed last).Faithful := by
  have hmoved (id : LinkId) : session.channel.pipeline.movedOff last.pipeline id = 0 :=
    movedOff_of_enqueued henqueued id
  constructor
  · intro link' hlink'
    dsimp only [Session.proceed] at hlink' ⊢
    rw [hmoved, Nat.add_zero]
    rcases henqueued.mem_links hids hlink' with ⟨queue, _, rfl⟩ | ⟨hlink', _⟩
    · exact h.counter link (List.mem_of_getElem? henqueued.found)
    · exact h.counter link' hlink'
  · exact h.arrived_proceed last
  · intro id
    have hle := h.outstanding_le id
    unfold SimulatedCard.outstanding at hle
    dsimp only [Session.proceed]
    unfold SimulatedCard.outstanding
    rw [hcard, SimulatedCard.arrived_after_push, SimulatedCard.pushed_after_push]
    rw [UInt32.sub_self]
    by_cases hid : link.id = id
    · rw [if_pos hid]
      exact succ_outstanding_le hle
    · rw [if_neg hid, UInt32.sub_self]
      exact hle
  · intro id
    dsimp only [Session.proceed]
    rw [hmoved, Nat.add_zero]
    exact Nat.le_add_right_of_le (h.moved_le id)

end Faithful

/-- The totals are faithful while the channel runs, and off by at most one when it does not. -/
structure Sound (session : Session γ) : Prop where
  ids : (session.channel.pipeline.links.map Link.id).Nodup
  faithful : session.channel.lifecycle = .running → session.Faithful
  moved_le : ∀ id, session.moved id ≤ session.completed id + 1

namespace Sound

lemma control (h : session.Sound) {control : CardControl}
    (hhonest : (Event.control control).Honest) :
    (session.after endpoint (.control control)).Sound where
  ids := h.ids
  faithful hrunning := by
    have hcompleted := SimulatedCard.control_completed session.channel.card.2 hhonest
    exact (h.faithful hrunning).proceed rfl hcompleted
  moved_le id := by
    have hle := h.moved_le id
    have hmoved : session.channel.pipeline.movedOff
        (endpoint.afterEvent session.channel (.control control)).pipeline id = 0 :=
      movedOff_of_links rfl id
    dsimp only [after, proceed]
    rw [hmoved]
    omega

/-- A call on a running channel, which may be the stop that ends the session. -/
lemma proceed (h : session.Sound) (hrunning : session.channel.lifecycle = .running)
    {operation : Operation} (heffect : Effect operation session.channel last)
    (hids : last.pipeline.links.map Link.id = session.channel.pipeline.links.map Link.id) :
    (session.proceed last).Sound := by
  have hfaithful := h.faithful hrunning
  have hnodup : (last.pipeline.links.map Link.id).Nodup := by
    rw [hids]
    exact h.ids
  have hsound (h' : (session.proceed last).Faithful) : (session.proceed last).Sound :=
    ⟨hnodup, fun _ => h', fun id => Nat.le_succ_of_le (h'.moved_le id)⟩
  cases heffect with
  | looks hstanding hlooked =>
    have hpipeline := Channel.pipeline_of_standing hstanding
    exact hsound (hfaithful.proceed (by rw [hpipeline]) hlooked.completed)
  | idles hnot _ _ => exact absurd hrunning hnot
  | starts _ hstopped _ _ _ =>
    rw [hstopped] at hrunning
    cases hrunning
  | pushes _ _ henqueued hcard => exact hsound (hfaithful.pushes h.ids henqueued hcard)
  | polls _ _ hlooked hadvanced =>
    exact hsound (hfaithful.polls h.ids hlooked.completed hadvanced)
  | stops _ hstopped hlooked hdrained =>
    obtain ⟨quotas, moves, hquotas, hadvanced⟩ := hdrained
    refine ⟨hnodup, ?_, hfaithful.moved_le_of_advanced h.ids 1 hquotas hadvanced⟩
    intro hlast
    have hstill : last.lifecycle = .running := hlast
    rw [hstopped] at hstill
    cases hstill
  | pops _ hcard hpopped =>
    apply hsound
    apply hfaithful.proceed hpopped.links
    rw [hcard]
    exact Completed.of_counters rfl

lemma call (h : session.Sound) (hsimulated : endpoint.Simulated) (call : Call) :
    (session.after endpoint (.call call)).Sound := by
  have heffect := call.operation.effect (hsimulated.during call) session.channel
  have hids : (endpoint.afterCall session.channel call).pipeline.links.map Link.id =
      session.channel.pipeline.links.map Link.id :=
    endpoint.afterEvent_map_id session.channel (.call call)
  have hnodup : ((endpoint.afterCall session.channel call).pipeline.links.map Link.id).Nodup := by
    rw [hids]
    exact h.ids
  unfold after afterCall
  dsimp only
  by_cases hbegins : call.begins endpoint session.channel = true
  · rw [if_pos hbegins]
    obtain ⟨-, hstopped, hafter⟩ := Call.begins_iff.1 hbegins
    have hbefore : session.channel.lifecycle ≠ .running := by
      rw [hstopped]
      simp
    obtain ⟨-, -, hpipeline, hblank⟩ := heffect.starts_of_running hbefore hafter
    exact ⟨hnodup, fun _ => Faithful.blank hblank hpipeline, fun _ => Nat.zero_le _⟩
  · rw [if_neg hbegins]
    by_cases hrunning : session.channel.lifecycle = .running
    · rw [if_pos hrunning]
      exact h.proceed hrunning heffect hids
    · rw [if_neg hrunning]
      refine ⟨hnodup, ?_, ?_⟩
      · intro hafter
        obtain ⟨hstart, hstopped, -, -⟩ := heffect.starts_of_running hrunning hafter
        exact absurd (Call.begins_iff.2 ⟨hstart, hstopped, hafter⟩) hbegins
      · intro id
        have hmoved : call.operation.moved id session.channel
            (endpoint.afterCall session.channel call) = 0 := heffect.moved_eq_zero hrunning id
        dsimp only
        rw [hmoved]
        exact h.moved_le id

theorem run (h : session.Sound) (hsimulated : endpoint.Simulated) {events : List Event}
    (hhonest : ∀ event ∈ events, event.Honest) : (session.run endpoint events).Sound := by
  induction events generalizing session with
  | nil => exact h
  | cons event events ih =>
    rw [List.forall_mem_cons] at hhonest
    obtain ⟨hfirst, hrest⟩ := hhonest
    cases event with
    | call call => exact ih (h.call hsimulated call) hrest
    | control control => exact ih (h.control hfirst) hrest

end Sound

/-- Counted since the last start of a stopped channel that succeeded, and without wrapping: as
long as the channel runs, no more superpages have left a link than the card has completed
there, and it has completed none that it was not given. Afterwards it is at most one more. -/
theorem moved_le_completed (endpoint : Endpoint (γ × SimulatedCard))
    (hsimulated : endpoint.Simulated) (card : γ × SimulatedCard)
    (channel : Channel (γ × SimulatedCard)) (hopen : endpoint.openChannel card = .ok channel)
    (events : List Event) (hhonest : ∀ event ∈ events, event.Honest) :
    let last := run endpoint { channel } events
    (last.channel.lifecycle = .running →
      ∀ id, last.moved id ≤ last.completed id ∧ last.completed id ≤ last.given id) ∧
      ∀ id, last.moved id ≤ last.completed id + 1 := by
  obtain ⟨links, hopened⟩ := exists_opened hopen
  have hstart : Sound { channel } := by
    refine ⟨hopened.nodup, ?_, fun _ => Nat.zero_le _⟩
    intro hrunning
    have hlifecycle : channel.lifecycle = .running := hrunning
    rw [hopened.lifecycle] at hlifecycle
    cases hlifecycle
  have hlast := hstart.run hsimulated hhonest
  refine ⟨?_, hlast.moved_le⟩
  intro hrunning id
  have hfaithful := hlast.faithful hrunning
  have hgiven := hfaithful.outstanding_le id
  exact ⟨hfaithful.moved_le id, by omega⟩

/-- One of two superpages is complete on the first link, and neither on the second, which still
holds one when the channel is stopped again. -/
def stoppedRun : List Event :=
  let call operation := Event.call ⟨operation, twoLinks.buffer⟩
  [call .start, call (.push ⟨0, 8192, 0, false, 0⟩), call (.push ⟨8192, 8192, 0, false, 1⟩),
    call (.push ⟨16384, 8192, 0, false, 2⟩), call (.push ⟨24576, 8192, 0, false, 3⟩),
    .control (.complete ⟨0⟩ 1), call .fill, call .stop, call .stop]

/-- The first stop takes the one superpage more from both links, and the second takes nothing. -/
theorem moved_le_completed_stopped :
    let channel := twoLinksChannel ([], { completion := .manual })
    let last := run twoLinks { channel } stoppedRun
    twoLinks.Simulated ∧ twoLinks.openChannel channel.card = .ok channel ∧
      (∀ event ∈ stoppedRun, event.Honest) ∧ (∀ id, last.moved id ≤ last.completed id + 1) ∧
      (last.moved ⟨0⟩, last.completed ⟨0⟩) = (2, 1) ∧
      (last.moved ⟨1⟩, last.completed ⟨1⟩) = (1, 0) ∧
      last.channel.pipeline.links.map Link.pending = [0, 1] := by
  have hsimulated : twoLinks.Simulated := ⟨_, rfl⟩
  have hopen := openChannel_twoLinks ([], { completion := .manual })
  have hhonest : ∀ event ∈ stoppedRun, event.Honest := by
    simp [stoppedRun, Event.Honest]
  have hmoved := moved_le_completed twoLinks hsimulated _ _ hopen _ hhonest
  exact ⟨hsimulated, hopen, hhonest, hmoved.2, by decide +kernel, by decide +kernel,
    by decide +kernel⟩

end Session

end DmaReadout
