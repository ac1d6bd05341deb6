import DmaReadout.Channel.Batch
import DmaReadout.Proofs.CounterReads
import DmaReadout.Proofs.PushOutcome
import DmaReadout.Proofs.Shares

/-!
# As many pushes fit as slots are free

Of valid superpages that the card takes, a running channel accepts as many as it counts free slots,
however unevenly its links are loaded, and refuses the next. A fill makes room for as many more as
it moves. To push a row of superpages is to push them one by one, so of a row there fit as many.
-/

namespace DmaReadout

open Pipeline (Advanced)

variable {κ : Type}

def Turn.isPush : Turn κ → Bool
  | .call ⟨.push _, _⟩ => true
  | _ => false

namespace Endpoint

/-- A push is valid, and the card takes its descriptor. Fills and stops are not admitted. -/
def Admits (endpoint : Endpoint κ) (channel : Channel κ) : Turn κ → Prop
  | .call ⟨.push superpage, buffer⟩ =>
    let mapped := { endpoint with buffer }
    (∃ descriptor, mapped.checkSuperpage superpage = .ok descriptor) ∧
      mapped.Takes superpage channel
  | .call ⟨.fill, _⟩ | .call ⟨.stop, _⟩ => False
  | _ => True

/-- A run in which every turn is admitted where it comes. -/
def Pushing (endpoint : Endpoint κ) : Channel κ → List (Turn κ) → Prop
  | _, [] => True
  | channel, turn :: turns =>
    endpoint.Admits channel turn ∧ endpoint.Pushing (endpoint.afterTurn channel turn) turns

/-- Exactly `count` pushes fit: in a run of valid ones that the card takes, so many succeed, and
every further push is refused. -/
structure Fits (endpoint : Endpoint κ) (channel : Channel κ) (count : Nat) : Prop where
  accepts : ∀ turns superpage buffer,
    endpoint.Pushing channel (turns ++ [.call ⟨.push superpage, buffer⟩]) →
    turns.countP Turn.isPush < count →
    answer ({ endpoint with buffer }.push superpage) (endpoint.afterTurns channel turns) = .ok ()
  refuses : ∀ turns superpage buffer, endpoint.Pushing channel turns →
    count ≤ turns.countP Turn.isPush →
    { endpoint with buffer }.Refuses superpage (endpoint.afterTurns channel turns) .queueFull

variable {endpoint : Endpoint κ} {channel : Channel κ}

lemma Pushing.append {turns turns' : List (Turn κ)}
    (h : endpoint.Pushing channel (turns ++ turns')) :
    endpoint.Pushing channel turns ∧
      endpoint.Pushing (endpoint.afterTurns channel turns) turns' := by
  induction turns generalizing channel with
  | nil => exact ⟨trivial, h⟩
  | cons turn turns ih =>
    obtain ⟨hfirst, hrest⟩ := ih h.2
    exact ⟨⟨h.1, hfirst⟩, hrest⟩

/-- Where it is admitted, an operation that is not a push leaves the slots as they are. -/
lemma Admits.slots_eq {operation : Operation} {buffer : Buffer}
    (h : endpoint.Admits channel (.call ⟨operation, buffer⟩))
    (hpush : (Turn.call ⟨operation, buffer⟩ : Turn κ).isPush = false)
    (hrunning : channel.lifecycle = .running) :
    let last := lastState (operation.run endpoint) channel
    last.lifecycle = .running ∧ last.pipeline.slots = channel.pipeline.slots := by
  intro last
  have hkeep {last : Channel κ} (h : last.standing = channel.standing) :
      last.lifecycle = .running ∧ last.pipeline.slots = channel.pipeline.slots := by
    rw [Channel.lifecycle_of_standing h, Channel.pipeline_of_standing h]
    exact ⟨hrunning, rfl⟩
  have hall : Ensures (operation.run endpoint) channel
      (fun _ last => last.lifecycle = .running ∧ last.pipeline.slots = channel.pipeline.slots)
      (fun _ last => last.lifecycle = .running ∧ last.pipeline.slots = channel.pipeline.slots) := by
    cases operation with
    | fill => exact h.elim
    | stop => exact h.elim
    | push superpage => cases hpush
    | start =>
      apply (endpoint.start_standing channel).mono
      · rintro _ last (⟨hstopped, -⟩ | ⟨-, hlast⟩)
        · cases hrunning.symm.trans hstopped
        · exact hkeep hlast
      · rintro e last (⟨hstopped, -⟩ | rfl)
        · cases hrunning.symm.trans hstopped
        · exact hkeep rfl
    | reset level =>
      exact (endpoint.keeps_reset level channel).mono (fun _ _ => hkeep) (fun _ _ => hkeep)
    | peek =>
      apply (Channel.ensures_peek channel).mono
      · rintro superpage last ⟨-, rfl⟩
        exact hkeep rfl
      · rintro e last rfl
        exact hkeep rfl
    | pop =>
      apply (Channel.ensures_pop channel).mono
      · rintro superpage last ⟨hpopped, hlast⟩
        refine ⟨?_, hpopped.slots⟩
        rw [hlast]
        exact hrunning
      · rintro e last rfl
        exact hkeep rfl
    | droppedPackets =>
      exact (endpoint.keeps_access _ channel).mono (fun _ _ => hkeep) (fun _ _ => hkeep)
    | injectError =>
      exact (endpoint.keeps_injectError channel).mono (fun _ _ => hkeep) (fun _ _ => hkeep)
  exact hall.of_lastState

lemma afterTurn_push (endpoint : Endpoint κ) (superpage : Superpage) (buffer : Buffer)
    (channel : Channel κ) : endpoint.afterTurn channel (.call ⟨.push superpage, buffer⟩) =
      lastState ({ endpoint with buffer }.push superpage) channel := rfl

/-- An admitted push succeeds if a slot is free, and takes it. -/
lemma Admits.exists_next (hbalanced : Balanced channel.pipeline)
    (hrunning : channel.lifecycle = .running) (hslots : 0 < channel.pipeline.slots)
    {superpage : Superpage} {buffer : Buffer}
    (h : endpoint.Admits channel (.call ⟨.push superpage, buffer⟩)) :
    ∃ next, { endpoint with buffer }.push superpage channel = .ok () next ∧
      endpoint.afterTurn channel (.call ⟨.push superpage, buffer⟩) = next ∧
      Balanced next.pipeline ∧ next.lifecycle = .running ∧
      next.pipeline.slots = channel.pipeline.slots - 1 := by
  obtain ⟨⟨descriptor, hcheck⟩, htakes⟩ := h
  obtain ⟨place, link, next, hpush, henqueued, hnext⟩ :=
    push_of_takes hbalanced hrunning hslots hcheck htakes
  have hturn : endpoint.afterTurn channel (.call ⟨.push superpage, buffer⟩) = next := by
    rw [afterTurn_push, lastState, hpush]
  obtain ⟨queue, -, hpipeline⟩ := henqueued.exists_queue
  refine ⟨next, hpush, hturn, ?_, hnext, ?_⟩
  · rw [← hturn]
    exact hbalanced.turn _
  · rw [hpipeline]

/-- An admitted push takes a slot if there is one, and nothing else does. -/
lemma Admits.slots (hbalanced : Balanced channel.pipeline) (hrunning : channel.lifecycle = .running)
    {turn : Turn κ} (h : endpoint.Admits channel turn) :
    let next := endpoint.afterTurn channel turn
    next.lifecycle = .running ∧
      next.pipeline.slots = channel.pipeline.slots - if turn.isPush then 1 else 0 := by
  cases turn with
  | change f => exact ⟨hrunning, rfl⟩
  | call call =>
    obtain ⟨operation, buffer⟩ := call
    cases operation with
    | fill => exact h.elim
    | stop => exact h.elim
    | push superpage =>
      rcases Nat.eq_zero_or_pos channel.pipeline.slots with hslots | hslots
      · rw [afterTurn_push, lastState, push_of_full hrunning hslots]
        refine ⟨hrunning, ?_⟩
        rw [hslots, Nat.zero_sub]
      · obtain ⟨next, -, hturn, -, hnext, hleft⟩ := h.exists_next hbalanced hrunning hslots
        rw [hturn]
        exact ⟨hnext, hleft⟩
    | start => exact h.slots_eq rfl hrunning
    | reset level => exact h.slots_eq rfl hrunning
    | peek => exact h.slots_eq rfl hrunning
    | pop => exact h.slots_eq rfl hrunning
    | droppedPackets => exact h.slots_eq rfl hrunning
    | injectError => exact h.slots_eq rfl hrunning

/-- Admitted pushes take the slots one by one, as long as there are any. -/
theorem Pushing.slots (hbalanced : Balanced channel.pipeline)
    (hrunning : channel.lifecycle = .running) {turns : List (Turn κ)}
    (h : endpoint.Pushing channel turns) :
    let last := endpoint.afterTurns channel turns
    Balanced last.pipeline ∧ last.lifecycle = .running ∧
      last.pipeline.slots = channel.pipeline.slots - turns.countP Turn.isPush := by
  induction turns generalizing channel with
  | nil => exact ⟨hbalanced, hrunning, rfl⟩
  | cons turn turns ih =>
    obtain ⟨hnext, hslots⟩ := h.1.slots hbalanced hrunning
    obtain ⟨hkept, hlast, hcount⟩ := ih (hbalanced.turn turn) hnext h.2
    refine ⟨hkept, hlast, ?_⟩
    rw [List.countP_cons, Nat.add_comm, ← Nat.sub_sub, ← hslots]
    exact hcount

/-- As many pushes fit as slots are free. -/
theorem fits_slots (hbalanced : Balanced channel.pipeline)
    (hrunning : channel.lifecycle = .running) : endpoint.Fits channel channel.pipeline.slots where
  accepts turns superpage buffer hpushing hcount := by
    obtain ⟨hbefore, hadmits, -⟩ := hpushing.append
    obtain ⟨hkept, hcurrent, hslots⟩ := hbefore.slots hbalanced hrunning
    have hfree : 0 < (endpoint.afterTurns channel turns).pipeline.slots := by
      rw [hslots]
      exact Nat.sub_pos_of_lt hcount
    obtain ⟨next, hpush, -⟩ := hadmits.exists_next hkept hcurrent hfree
    rw [answer, hpush]
  refuses turns superpage buffer hpushing hcount := by
    obtain ⟨-, hcurrent, hslots⟩ := hpushing.slots hbalanced hrunning
    apply refuses_of_full hcurrent
    rw [hslots]
    exact Nat.sub_eq_zero_of_le hcount

/-- The pushes of `count` superpages of a row, from place `n` on. -/
def rowTurns (endpoint : Endpoint κ) (row : SuperpageRow) (n count : Nat) : List (Turn κ) :=
  (List.range' n count).map fun place =>
    .call ⟨.push (row.superpage place), endpoint.buffer⟩

lemma rowTurns_succ (endpoint : Endpoint κ) (row : SuperpageRow) (n count : Nat) :
    endpoint.rowTurns row n (count + 1) =
      .call ⟨.push (row.superpage n), endpoint.buffer⟩ :: endpoint.rowTurns row (n + 1) count :=
  rfl

/-- To push a row is to push its superpages in turn, up to the first that is refused. -/
theorem pushRow_eq_afterTurns (endpoint : Endpoint κ) (row : SuperpageRow) (n count : Nat)
    (channel : Channel κ) :
    let pushed := endpoint.pushRow row n count channel
    let made := pushed.1.1 + pushed.1.2.toList.length
    made ≤ count ∧ pushed.2 = endpoint.afterTurns channel (endpoint.rowTurns row n made) := by
  induction count generalizing n channel with
  | zero => exact ⟨Nat.le_refl 0, rfl⟩
  | succ count ih =>
    have hfirst := endpoint.afterTurn_push (row.superpage n) endpoint.buffer channel
    unfold pushRow
    cases hpush : endpoint.push (row.superpage n) channel with
    | error e last =>
      rw [lastState, hpush] at hfirst
      exact ⟨Nat.succ_le_succ (Nat.zero_le count), hfirst.symm⟩
    | ok _ next =>
      rw [lastState, hpush] at hfirst
      obtain ⟨hmade, hlast⟩ := ih (n + 1) next
      dsimp only
      rw [Nat.add_right_comm]
      refine ⟨Nat.succ_le_succ hmade, ?_⟩
      rw [hlast, rowTurns_succ, afterTurns, afterTurns, List.foldl_cons, hfirst]

/-- Of a row of valid superpages that the card takes, there fit as many as slots are free. -/
theorem pushRow_fills_slots (hbalanced : Balanced channel.pipeline)
    (hrunning : channel.lifecycle = .running) (row : SuperpageRow) (n count : Nat)
    (hpushing : endpoint.Pushing channel
      (endpoint.rowTurns row n (min count channel.pipeline.slots))) :
    (endpoint.pushRow row n count channel).1 = (min count channel.pipeline.slots,
      if count ≤ channel.pipeline.slots then none else some .queueFull) := by
  induction count generalizing n channel with
  | zero => rw [Nat.zero_min, if_pos (Nat.zero_le _), pushRow]
  | succ count ih =>
    unfold pushRow
    rcases Nat.eq_zero_or_pos channel.pipeline.slots with hslots | hslots
    · rw [push_of_full hrunning hslots, hslots, Nat.min_zero, if_neg (Nat.not_succ_le_zero count)]
    · have hfirst : min (count + 1) channel.pipeline.slots =
          min count (channel.pipeline.slots - 1) + 1 := by
        omega
      have hfits : count + 1 ≤ channel.pipeline.slots ↔ count ≤ channel.pipeline.slots - 1 := by
        omega
      rw [hfirst, rowTurns_succ] at hpushing
      obtain ⟨next, hpush, hturn, hkept, hnext, hleft⟩ :=
        hpushing.1.exists_next hbalanced hrunning hslots
      have hrest := hpushing.2
      rw [hturn, ← hleft] at hrest
      have hrow := ih hkept hnext (n + 1) hrest
      rw [hpush, hfirst, if_congr hfits rfl rfl, ← hleft]
      exact congrArg (Prod.map Nat.succ id) hrow

end Endpoint

/-- The ready queue grows by what was moved. -/
lemma Pipeline.Advanced.length_ready {pipeline pipeline' : Pipeline} {quotas : List Nat}
    {moves : List (LinkId × Nat)} (h : Advanced pipeline quotas pipeline' moves) :
    pipeline'.ready.length = pipeline.ready.length + Link.totalMoved moves := by
  have hlength := congrArg List.length h.served.ready
  rw [List.length_append, List.length_map, Link.length_fronts_shares, ← h.totalMoved_eq,
    BoundedQueue.length_toList, BoundedQueue.length_toList] at hlength
  exact hlength

namespace Endpoint

variable {endpoint : Endpoint κ} {channel : Channel κ}

lemma lastState_fill (endpoint : Endpoint κ) (hrunning : channel.lifecycle = .running) :
    lastState endpoint.fill channel = lastState endpoint.collect channel := by
  have hall : Ensures endpoint.fill channel
      (fun _ last => last = lastState endpoint.collect channel)
      (fun _ last => last = lastState endpoint.collect channel) := by
    unfold fill
    rw [ensures_bind, ensures_get, if_pos hrunning, ensures_discard]
    unfold Ensures lastState
    cases endpoint.collect channel <;> rfl
  exact hall.of_lastState

/-- A fill of a running channel frees as many slots as superpages move on to the ready queue. -/
theorem fill_frees (endpoint : Endpoint κ) (hrunning : channel.lifecycle = .running) :
    let filled := lastState endpoint.fill channel
    ∃ moved, filled.lifecycle = .running ∧
      filled.pipeline.ready.length = channel.pipeline.ready.length + moved ∧
      filled.pipeline.slots = channel.pipeline.slots + moved ∧
      ∀ count last, endpoint.collect channel = .ok count last → count = moved := by
  rw [lastState_fill endpoint hrunning, lastState]
  have hcollect := ensures_collect_polled endpoint channel
  cases hrun : endpoint.collect channel with
  | ok count last =>
    obtain ⟨-, counts, moves, -, hadvanced, hcount, hlast⟩ := hcollect.of_ok hrun
    refine ⟨count, ?_, ?_, ?_, ?_⟩
    · rw [hlast]
      exact hrunning
    · rw [hcount]
      exact hadvanced.length_ready
    · rw [hcount]
      exact hadvanced.slots
    · intro count' last' hsame
      cases hsame
      rfl
  | error e last =>
    obtain ⟨-, hlast⟩ := hcollect.of_error hrun
    dsimp only
    rw [hlast]
    refine ⟨0, hrunning, rfl, rfl, ?_⟩
    intro count last' hcollected
    cases hcollected

/-- On a running channel exactly as many pushes fit as it counts free slots, and after a fill as
many more as the fill has moved. No push ever finds the queue of its link full. -/
theorem free_slots_fit (endpoint : Endpoint κ) (card : κ) (channel : Channel κ)
    (hopen : endpoint.openChannel card = .ok channel) (turns : List (Turn κ)) :
    let before := endpoint.afterTurns channel turns
    (before.lifecycle = .running →
      endpoint.Fits before before.pipeline.slots ∧
      ∀ buffer,
        let mapped := { endpoint with buffer }
        let filled := endpoint.afterCall before ⟨.fill, buffer⟩
        ∃ moved,
          (∀ count last, mapped.collect before = .ok count last → count = moved) ∧
          filled.pipeline.ready.length = before.pipeline.ready.length + moved ∧
          endpoint.Fits filled (before.pipeline.slots + moved)) ∧
    ∀ superpage buffer id capacity last, { endpoint with buffer }.push superpage before ≠
      .error (.linkQueueFull id capacity) last := by
  intro before
  have hbalanced : Balanced before.pipeline := balanced_of_openChannel hopen turns
  refine ⟨fun hrunning => ⟨fits_slots hbalanced hrunning, ?_⟩, ?_⟩
  · intro buffer mapped filled
    obtain ⟨moved, hfilled, hready, hslots, hcount⟩ := fill_frees mapped hrunning
    refine ⟨moved, hcount, hready, ?_⟩
    rw [← hslots]
    exact fits_slots (hbalanced.turn (.call ⟨.fill, buffer⟩)) hfilled
  · intro superpage buffer id capacity last
    exact push_ne_linkQueueFull hbalanced

/-- Three superpages are pushed and that on the second link moves on, so that the links hold two and
none. Two more pushes fit, and a third is refused. -/
theorem free_slots_fit_uneven :
    let card : ScriptedCard := ([], { completion := .manual })
    let channel := twoLinksChannel card
    let superpage : Superpage := ⟨0, 8192, 0, false, 0⟩
    let push : Turn ScriptedCard := .call ⟨.push superpage, twoLinks.buffer⟩
    let turns := [.call ⟨.start, twoLinks.buffer⟩, push, push, push, .control (.complete ⟨1⟩ 1),
      .call ⟨.fill, twoLinks.buffer⟩]
    let before := twoLinks.afterTurns channel turns
    twoLinks.openChannel card = .ok channel ∧ before.lifecycle = .running ∧
      before.pipeline.links.map Link.pending = [2, 0] ∧ before.pipeline.slots = 2 ∧
      twoLinks.Pushing before [push, push] ∧
      answer (twoLinks.push superpage) (twoLinks.afterTurns before [push]) = .ok () ∧
      twoLinks.Refuses superpage (twoLinks.afterTurns before [push, push]) .queueFull := by
  intro card channel superpage push turns before
  have hopen := openChannel_twoLinks card
  have hrunning : before.lifecycle = .running := by decide +kernel
  have hslots : before.pipeline.slots = 2 := by decide +kernel
  have hpushing : twoLinks.Pushing before [push, push] := by
    refine ⟨⟨⟨(1, 0x100000000), ?_⟩, ?_⟩, ⟨⟨(1, 0x100000000), ?_⟩, ?_⟩, trivial⟩
    all_goals decide +kernel
  obtain ⟨hfits, -⟩ := (free_slots_fit twoLinks card channel hopen turns).1 hrunning
  have hcount : [push, push].countP Turn.isPush = 2 := rfl
  refine ⟨hopen, hrunning, by decide +kernel, hslots, hpushing, ?_, ?_⟩
  · refine hfits.accepts [push] superpage twoLinks.buffer hpushing ?_
    rw [hslots]
    decide
  · refine hfits.refuses [push, push] superpage twoLinks.buffer hpushing ?_
    rw [hslots]
    exact Nat.le_of_eq hcount.symm

end Endpoint

end DmaReadout
