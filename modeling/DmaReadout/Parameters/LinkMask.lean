import DmaReadout.Link.Id

/-!
# Link masks

The links that a user asks for, as a set: neither the order nor a repetition of the
numbers counts. The numbers are kept in ascending order.
-/

namespace DmaReadout

/-- A set of links, in ascending order. -/
structure LinkMask where
  ids : List LinkId
  ascending : ids.Pairwise (· < ·)
deriving DecidableEq

namespace LinkMask

def empty : LinkMask := ⟨[], .nil⟩

/-- Puts a link at its place in an ascending list, unless it is there already. -/
def insertAscending (id : LinkId) : List LinkId → List LinkId
  | [] => [id]
  | head :: rest =>
    if id < head then id :: head :: rest
    else if id = head then head :: rest
    else head :: insertAscending id rest

theorem mem_insertAscending {a id : LinkId} {ids : List LinkId} :
    a ∈ insertAscending id ids ↔ a = id ∨ a ∈ ids := by
  induction ids with
  | nil => simp [insertAscending]
  | cons head rest ih =>
    unfold insertAscending
    split
    · simp
    · split
      · simp_all
      · simp only [List.mem_cons, ih]
        exact or_left_comm

theorem pairwise_insertAscending (id : LinkId) {ids : List LinkId}
    (h : ids.Pairwise (· < ·)) : (insertAscending id ids).Pairwise (· < ·) := by
  induction ids with
  | nil => simp [insertAscending]
  | cons head rest ih =>
    have hrest := List.pairwise_cons.1 h
    unfold insertAscending
    split <;> rename_i hlt
    · refine List.pairwise_cons.2 ⟨fun a ha => ?_, h⟩
      rcases List.mem_cons.1 ha with rfl | ha
      · exact hlt
      · exact UInt32.lt_trans hlt (hrest.1 a ha)
    · split <;> rename_i hne
      · exact h
      · refine List.pairwise_cons.2 ⟨fun a ha => ?_, ih hrest.2⟩
        rcases mem_insertAscending.1 ha with rfl | ha
        · rcases UInt32.lt_or_lt_of_ne fun hv => hne (congrArg LinkId.mk hv) with hv | hv
          · exact absurd hv hlt
          · exact hv
        · exact hrest.1 a ha

def insert (id : LinkId) (mask : LinkMask) : LinkMask :=
  ⟨insertAscending id mask.ids, pairwise_insertAscending id mask.ascending⟩

/-- The set of the links in a list. -/
def ofList (ids : List LinkId) : LinkMask :=
  ids.foldr insert empty

theorem mem_ofList {a : LinkId} {ids : List LinkId} : a ∈ (ofList ids).ids ↔ a ∈ ids := by
  induction ids with
  | nil => simp [ofList, empty]
  | cons id ids ih =>
    rw [List.mem_cons, ← ih]
    exact mem_insertAscending

end LinkMask

end DmaReadout
