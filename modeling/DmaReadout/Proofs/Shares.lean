import DmaReadout.Proofs.PipelineUpdates
import Mathlib.Data.List.Forall2

/-!
# What each link gives

A pass over the links serves them in turn until the ready queue is full. So what it takes is the
front of what it would take with room for all: nothing that a link could give is passed over in
favour of a later link.
-/

namespace DmaReadout

namespace Link

/-- The oldest superpages of several links, so many of each, link by link. -/
def fronts (counted : List (Link × Nat)) : List Superpage :=
  counted.flatMap fun entry => entry.1.queue.toList.take entry.2

/-- How many superpages each of several links gives, up to its quota, while there is room for this
many in the ready queue. -/
def shares : (room : Nat) → (asked : List (Link × Nat)) → List (Link × Nat)
  | _, [] => []
  | room, (link, quota) :: asked =>
    let count := min quota (min link.pending room)
    (link, count) :: shares (room - count) asked

/-- These links have given up so many of their oldest superpages each. -/
def ShedAll (counted : List (Link × Nat)) (links' : List Link) : Prop :=
  List.Forall₂ (fun entry link' => Shed entry.1 entry.2 link') counted links'

def totalCount : List (Link × Nat) → Nat
  | [] => 0
  | (_, count) :: counted => count + totalCount counted

lemma shares_cons (room : Nat) (link : Link) (quota : Nat) (asked : List (Link × Nat)) :
    shares room ((link, quota) :: asked) = (link, min quota (min link.pending room)) ::
      shares (room - min quota (min link.pending room)) asked := rfl

lemma fronts_cons (link : Link) (count : Nat) (counted : List (Link × Nat)) :
    fronts ((link, count) :: counted) = link.queue.toList.take count ++ fronts counted := rfl

lemma length_front (link : Link) (quota : Nat) :
    (link.queue.toList.take quota).length = min quota link.pending := by
  rw [List.length_take, BoundedQueue.length_toList]
  rfl

/-- No link keeps anything for which there was room. -/
theorem fronts_shares (room : Nat) (asked : List (Link × Nat)) :
    fronts (shares room asked) = (fronts asked).take room := by
  induction asked generalizing room with
  | nil => exact List.take_nil.symm
  | cons entry asked ih =>
    obtain ⟨link, quota⟩ := entry
    have hlength := length_front link quota
    have hfront : link.queue.toList.take (min quota (min link.pending room)) =
        (link.queue.toList.take quota).take room := by
      rw [List.take_take, List.take_eq_take_iff, BoundedQueue.length_toList]
      unfold pending
      omega
    have hrest : room - (link.queue.toList.take quota).length =
        room - min quota (min link.pending room) := by
      omega
    rw [shares_cons, fronts_cons, fronts_cons, ih, List.take_append, hfront, hrest]

lemma length_fronts_shares (room : Nat) (asked : List (Link × Nat)) :
    (fronts (shares room asked)).length = totalCount (shares room asked) := by
  induction asked generalizing room with
  | nil => rfl
  | cons entry asked ih =>
    obtain ⟨link, quota⟩ := entry
    rw [shares_cons, fronts_cons, totalCount, List.length_append, length_front, ih]
    omega

lemma totalCount_shares (room : Nat) (asked : List (Link × Nat)) :
    totalCount (shares room asked) = min (fronts asked).length room := by
  rw [← length_fronts_shares, fronts_shares, List.length_take, Nat.min_comm]

lemma Passed.room {link link' : Link} {ready ready' : BoundedQueue Superpage} {count : Nat}
    (h : Passed link ready count link' ready') :
    ready'.capacity - ready'.length = ready.capacity - ready.length - count := by
  have hlength := congrArg List.length h.given
  rw [List.length_append, List.length_map, length_front, BoundedQueue.length_toList,
    BoundedQueue.length_toList] at hlength
  have hcount := h.shed.count_le
  rw [h.capacity]
  omega

namespace PassedAll

variable {links links' : List Link} {ready ready' : BoundedQueue Superpage}
  {quotas : List Nat} {moves : List (LinkId × Nat)}

/-- A pass leaves the links without a quota alone. -/
lemma drop_quotas (h : PassedAll links ready quotas links' ready' moves) :
    links'.drop quotas.length = links.drop quotas.length := by
  induction h with
  | rest => rfl
  | next _ _ ih => exact ih

/-- What a pass takes off the links that have quotas. -/
theorem shed_shares (h : PassedAll links ready quotas links' ready' moves) :
    let given := shares (ready.capacity - ready.length) (links.zip quotas)
    ShedAll given (links'.take quotas.length) ∧
      ready'.toList = ready.toList ++ (fronts given).map Superpage.markReady ∧
      totalMoved moves = totalCount given := by
  induction h with
  | @rest links ready quotas hstop =>
    have hasked : links.zip quotas = [] := List.zip_eq_nil_iff.2 hstop
    have hkept : links.take quotas.length = [] := by
      rcases hstop with rfl | rfl
      · exact List.take_nil
      · rfl
    rw [hasked, hkept]
    exact ⟨.nil, (List.append_nil _).symm, rfl⟩
  | @next link link' links links' ready ready' ready'' quota quotas moves first _ ih =>
    obtain ⟨hshed, hgiven, hmoved⟩ := ih
    rw [first.room] at hshed hgiven hmoved
    refine ⟨.cons first.shed hshed, ?_, ?_⟩
    · rw [hgiven, first.given, List.append_assoc, ← List.map_append]
      rfl
    · rw [totalMoved, hmoved]
      rfl

end PassedAll

end Link

namespace Pipeline

open Link (shares fronts)

/-- The number of superpages for which the ready queue has room. -/
def room (pipeline : Pipeline) : Nat :=
  pipeline.ready.capacity - pipeline.ready.length

/-- A pass has served the links that had quotas, each in turn and as far as there was room. -/
structure Served (pipeline : Pipeline) (quotas : List Nat) (pipeline' : Pipeline) : Prop where
  links : Link.ShedAll (shares pipeline.room (pipeline.links.zip quotas))
    (pipeline'.links.take quotas.length)
  others : pipeline'.links.drop quotas.length = pipeline.links.drop quotas.length
  ready : pipeline'.ready.toList = pipeline.ready.toList ++
    (fronts (shares pipeline.room (pipeline.links.zip quotas))).map Superpage.markReady
  slots : pipeline'.slots =
    pipeline.slots + Link.totalCount (shares pipeline.room (pipeline.links.zip quotas))

variable {pipeline pipeline' : Pipeline} {quotas : List Nat} {moves : List (LinkId × Nat)}

lemma room_eq_zero_iff : pipeline.room = 0 ↔ pipeline.ready.isFull = true := by
  have hle := pipeline.ready.length_le_capacity
  rw [room, BoundedQueue.isFull, beq_iff_eq]
  omega

namespace Advanced

lemma length_links (h : Advanced pipeline quotas pipeline' moves) :
    pipeline'.links.length = pipeline.links.length := by
  have hlength := congrArg List.length h.passed.map_id
  rwa [List.length_map, List.length_map] at hlength

lemma transferCapacity (h : Advanced pipeline quotas pipeline' moves) :
    pipeline'.transferCapacity = pipeline.transferCapacity := by
  rw [Pipeline.transferCapacity, h.linkCapacity, h.length_links]
  rfl

lemma totalMoved_eq (h : Advanced pipeline quotas pipeline' moves) : Link.totalMoved moves =
    Link.totalCount (shares pipeline.room (pipeline.links.zip quotas)) :=
  h.passed.shed_shares.2.2

theorem served (h : Advanced pipeline quotas pipeline' moves) :
    Served pipeline quotas pipeline' where
  links := h.passed.shed_shares.1
  others := h.passed.drop_quotas
  ready := h.passed.shed_shares.2.1
  slots := by
    rw [← h.totalMoved_eq]
    exact h.slots

end Advanced

end Pipeline

end DmaReadout
