import DmaReadout.Proofs.AccessHistory
import DmaReadout.Proofs.SlotAccounting
import DmaReadout.Proofs.Turns

/-!
# What becomes of a push

A push is refused before anything happens, or the card is asked to take the descriptor, and all
depends on the answer. As long as a slot is counted free, some link has room: were the least loaded
one full, then all would be, and no slot would be free.
-/

namespace DmaReadout

open Link (Fewest)
open Pipeline (Enqueued)

variable {κ : Type}

lemma Link.mul_length_le_totalPending {links : List Link} {count : Nat}
    (h : ∀ link ∈ links, count ≤ link.pending) : count * links.length ≤ totalPending links := by
  induction links with
  | nil => exact Nat.zero_le _
  | cons link links ih =>
    obtain ⟨hfirst, hrest⟩ := List.forall_mem_cons.1 h
    have hle := ih hrest
    rw [List.length_cons, Nat.mul_succ, totalPending]
    omega

namespace Balanced

variable {pipeline : Pipeline}

lemma isFull_eq_false (h : Balanced pipeline) (hslots : 0 < pipeline.slots) {place : Nat}
    {link : Link} (hfewest : Fewest pipeline.links place link) : link.queue.isFull = false := by
  rw [BoundedQueue.isFull, beq_eq_false_iff_ne,
    h.capacity link (List.mem_of_getElem? hfewest.found)]
  intro hfull
  have hall : pipeline.transferCapacity ≤ pipeline.pending := by
    rw [Pipeline.transferCapacity, ← hfull]
    exact Link.mul_length_le_totalPending hfewest.le
  have hkept := h.slots
  omega

/-- As long as a slot is free, a superpage finds a link. -/
theorem exists_nextLink (h : Balanced pipeline) (hslots : 0 < pipeline.slots) :
    ∃ place link, pipeline.nextLink = .ok (place, link) := by
  have hlinks : pipeline.links ≠ [] := by
    intro hlinks
    have hkept := h.slots
    rw [Pipeline.transferCapacity, hlinks, List.length_nil, Nat.mul_zero] at hkept
    omega
  cases hbest : Link.leastLoaded pipeline.links with
  | none => exact absurd (Link.leastLoaded_eq_none_iff.1 hbest) hlinks
  | some best =>
    obtain ⟨place, link⟩ := best
    have hroom := h.isFull_eq_false hslots (.of_leastLoaded hbest)
    refine ⟨place, link, ?_⟩
    unfold Pipeline.nextLink Pipeline.checkCapacity
    simp only [if_neg (Nat.ne_of_gt hslots), hbest, hroom, Bool.false_eq_true, if_false]

end Balanced

lemma Balanced.turn {endpoint : Endpoint κ} {channel : Channel κ} (h : Balanced channel.pipeline)
    (turn : Turn κ) : Balanced (endpoint.afterTurn channel turn).pipeline := by
  cases turn with
  | call call => exact h.update (call.operation.update (endpoint.during call) channel)
  | change f => exact h

namespace Endpoint

variable {endpoint : Endpoint κ} {channel : Channel κ} {superpage : Superpage}

/-- However a channel is used, and whatever others do to its card, its slots stay accounted for. -/
theorem balanced_of_openChannel {card : κ} (hopen : endpoint.openChannel card = .ok channel)
    (turns : List (Turn κ)) : Balanced (endpoint.afterTurns channel turns).pipeline := by
  obtain ⟨links, hopened⟩ := exists_opened hopen
  have hbalanced : Balanced channel.pipeline := hopened.balanced
  refine afterTurns_induction (P := fun channel => Balanced channel.pipeline) ?_ hbalanced
  intro turn _ current hcurrent
  exact hcurrent.turn turn

lemma push_of_not_running (hrunning : channel.lifecycle ≠ .running) :
    endpoint.push superpage channel = .error (.invalidState "push" channel.lifecycle) channel := by
  have hget : (get : ChannelM κ (Channel κ)) channel = .ok channel channel := rfl
  unfold push
  rw [bind_of_ok hget, if_neg hrunning]
  rfl

lemma push_of_full (hrunning : channel.lifecycle = .running)
    (hslots : channel.pipeline.slots = 0) :
    endpoint.push superpage channel = .error .queueFull channel := by
  have hcapacity : channel.pipeline.checkCapacity = .error .queueFull := if_pos hslots
  have hget : (get : ChannelM κ (Channel κ)) channel = .ok channel channel := rfl
  unfold push
  rw [bind_of_ok hget, if_pos hrunning, hcapacity]
  rfl

lemma push_of_invalid (hrunning : channel.lifecycle = .running)
    (hslots : 0 < channel.pipeline.slots) {e : ReadoutError}
    (hcheck : endpoint.checkSuperpage superpage = .error e) :
    endpoint.push superpage channel = .error e channel := by
  have hcapacity : channel.pipeline.checkCapacity = .ok () := if_neg (Nat.ne_of_gt hslots)
  have hget : (get : ChannelM κ (Channel κ)) channel = .ok channel channel := rfl
  unfold push
  rw [bind_of_ok hget, if_pos hrunning, hcapacity, hcheck]
  rfl

/-- Once the superpage was checked and a link was chosen, all depends on the card. -/
theorem ensures_push_of_valid (hrunning : channel.lifecycle = .running) {place : Nat} {link : Link}
    (hnext : channel.pipeline.nextLink = .ok (place, link)) {pages : UInt32} {busAddress : UInt64}
    (hcheck : endpoint.checkSuperpage superpage = .ok (pages, busAddress)) :
    Ensures (endpoint.push superpage) channel
      (fun _ last => Enqueued channel.pipeline place link superpage last.pipeline ∧
        last.lifecycle = .running ∧
        endpoint.registers.perform (.write (.pushSuperpage link.id pages busAddress))
          channel.card = (.ok (), last.card))
      (fun e last => ∃ fault, e = .hardware fault ∧ last = { channel with card := last.card } ∧
        endpoint.registers.perform (.write (.pushSuperpage link.id pages busAddress))
          channel.card = (.error fault, last.card)) := by
  have hcapacity : channel.pipeline.checkCapacity = .ok () :=
    if_neg (Nat.ne_of_gt (Pipeline.chosen_of_nextLink hnext).1)
  unfold push
  rw [ensures_bind, ensures_get, if_pos hrunning, hcapacity, hcheck]
  change Ensures (discard (endpoint.submit superpage pages busAddress)) channel _ _
  rw [ensures_discard]
  apply (endpoint.ensures_submit_of_nextLink hnext superpage pages busAddress).mono
  · rintro id last ⟨-, henqueued, hlifecycle, -, hperform⟩
    exact ⟨henqueued, hlifecycle.trans hrunning, hperform⟩
  · intro e last hlast
    exact hlast

/-- A superpage is turned down for a defect of its own, or because the buffer has no address. -/
lemma checkSuperpage_error {e : ReadoutError} (h : endpoint.checkSuperpage superpage = .error e) :
    (∃ defect, e = .invalidSuperpage superpage.offset superpage.size defect) ∨
      ∃ fault, e = .hardware fault := by
  unfold checkSuperpage at h
  grind

/-- A push is refused before anything happens: no access is made, and nothing changes. -/
structure Refuses (endpoint : Endpoint κ) (superpage : Superpage) (channel : Channel κ)
    (e : ReadoutError) : Prop where
  answered : endpoint.push superpage channel = .error e channel
  silent : (Operation.push superpage).accesses endpoint channel = []

/-- The card takes the descriptor of the superpage, if a push gets so far. -/
def Takes (endpoint : Endpoint κ) (superpage : Superpage) (channel : Channel κ) : Prop :=
  ∀ past ∈ (Operation.push superpage).accesses endpoint channel, past.succeeded = true

instance : Decidable (endpoint.Takes superpage channel) :=
  inferInstanceAs (Decidable (∀ past ∈ _, _))

/-- What a push does to a channel whose accesses are recorded tells whether it made any. -/
lemma Refuses.of_recorded {e : ReadoutError}
    (h : endpoint.recorded.push superpage (channel.withHistory []) =
      .error e (channel.withHistory [])) : endpoint.Refuses superpage channel e where
  answered :=
    ((Operation.push superpage).run_recorded endpoint (channel.withHistory [])).of_error h
  silent := by
    have hlast : lastState ((Operation.push superpage).run endpoint.recorded)
        (channel.withHistory []) = channel.withHistory [] := by
      change lastState (endpoint.recorded.push superpage) _ = _
      rw [lastState, h]
    rw [Operation.accesses, hlast]
    rfl

theorem refuses_of_full (hrunning : channel.lifecycle = .running)
    (hslots : channel.pipeline.slots = 0) : endpoint.Refuses superpage channel .queueFull :=
  .of_recorded (push_of_full hrunning hslots)

theorem refuses_of_invalid (hrunning : channel.lifecycle = .running)
    (hslots : 0 < channel.pipeline.slots) {e : ReadoutError}
    (hcheck : endpoint.checkSuperpage superpage = .error e) :
    endpoint.Refuses superpage channel e := by
  apply Refuses.of_recorded
  apply push_of_invalid
  · exact hrunning
  · exact hslots
  · exact hcheck

/-- The only access of a push is that for the descriptor. -/
theorem accesses_of_valid (hrunning : channel.lifecycle = .running) {place : Nat} {link : Link}
    (hnext : channel.pipeline.nextLink = .ok (place, link)) {pages : UInt32} {busAddress : UInt64}
    (hcheck : endpoint.checkSuperpage superpage = .ok (pages, busAddress)) :
    let access := Access.write (.pushSuperpage link.id pages busAddress)
    (Operation.push superpage).accesses endpoint channel =
      [⟨access, (endpoint.registers.perform access channel.card).1.isOk⟩] := by
  intro access
  rcases hperform : endpoint.registers.perform access channel.card with ⟨reply, card⟩
  have hrecorded := Registers.perform_recorded hperform []
  have hpush : Ensures (endpoint.recorded.push superpage) (channel.withHistory [])
      (fun _ last => last.card.1 = [⟨access, reply.isOk⟩])
      (fun _ last => last.card.1 = [⟨access, reply.isOk⟩]) := by
    have hvalid := @ensures_push_of_valid _ endpoint.recorded (channel.withHistory []) superpage
      hrunning place link hnext pages busAddress hcheck
    apply hvalid.mono
    · rintro _ last ⟨-, -, hlast⟩
      rw [← congrArg (·.2.1) (hrecorded.symm.trans hlast)]
      rfl
    · rintro e last ⟨fault, -, -, hlast⟩
      rw [← congrArg (·.2.1) (hrecorded.symm.trans hlast)]
      rfl
  exact hpush.of_lastState

/-- A valid superpage is queued on the least loaded link, if a slot is free and the card takes the
descriptor. -/
theorem push_of_takes (hbalanced : Balanced channel.pipeline)
    (hrunning : channel.lifecycle = .running) (hslots : 0 < channel.pipeline.slots)
    {descriptor : UInt32 × UInt64} (hcheck : endpoint.checkSuperpage superpage = .ok descriptor)
    (htakes : endpoint.Takes superpage channel) :
    ∃ place link last, endpoint.push superpage channel = .ok () last ∧
      Enqueued channel.pipeline place link superpage last.pipeline ∧
      last.lifecycle = .running := by
  obtain ⟨pages, busAddress⟩ := descriptor
  obtain ⟨place, link, hnext⟩ := hbalanced.exists_nextLink hslots
  have hpush := ensures_push_of_valid hrunning hnext hcheck
  cases hrun : endpoint.push superpage channel with
  | ok _ last =>
    obtain ⟨henqueued, hlifecycle, -⟩ := hpush.of_ok hrun
    exact ⟨place, link, last, rfl, henqueued, hlifecycle⟩
  | error e last =>
    obtain ⟨fault, -, -, hperform⟩ := hpush.of_error hrun
    have haccesses := accesses_of_valid hrunning hnext hcheck
    unfold Takes at htakes
    rw [haccesses, List.forall_mem_singleton, hperform] at htakes
    cases htakes

/-- A push never complains of the queue of a link. -/
theorem push_ne_linkQueueFull (hbalanced : Balanced channel.pipeline) {id : LinkId}
    {capacity : Nat} {last : Channel κ} :
    endpoint.push superpage channel ≠ .error (.linkQueueFull id capacity) last := by
  intro hrun
  by_cases hrunning : channel.lifecycle = .running
  · rcases Nat.eq_zero_or_pos channel.pipeline.slots with hslots | hslots
    · rw [push_of_full hrunning hslots] at hrun
      cases hrun
    · cases hcheck : endpoint.checkSuperpage superpage with
      | error e =>
        rw [push_of_invalid hrunning hslots hcheck] at hrun
        rcases checkSuperpage_error hcheck with ⟨defect, rfl⟩ | ⟨fault, rfl⟩ <;> cases hrun
      | ok descriptor =>
        obtain ⟨place, link, hnext⟩ := hbalanced.exists_nextLink hslots
        obtain ⟨fault, he, -⟩ := (ensures_push_of_valid hrunning hnext hcheck).of_error hrun
        cases he
  · rw [push_of_not_running hrunning] at hrun
    cases hrun

end Endpoint

end DmaReadout
