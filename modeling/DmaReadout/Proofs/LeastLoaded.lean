import DmaReadout.Pipeline
import Mathlib.Tactic.Lemma

/-!
# The least loaded link

A superpage goes to the link that holds the fewest, the first of several, if a slot of the channel
is free and the link has room.
-/

namespace DmaReadout

namespace Link

variable {links : List Link} {place : Nat} {link : Link}

/-- The link at `place` holds the fewest superpages, and every link before it holds more. -/
structure Fewest (links : List Link) (place : Nat) (link : Link) : Prop where
  found : links[place]? = some link
  le : ∀ other ∈ links, link.pending ≤ other.pending
  lt : ∀ before < place, ∀ other, links[before]? = some other → link.pending < other.pending

lemma leastLoaded_eq_none_iff : leastLoaded links = none ↔ links = [] := by
  cases links with
  | nil => simp [leastLoaded]
  | cons first links =>
    rw [leastLoaded]
    cases leastLoaded links with
    | none => simp
    | some best =>
      dsimp only
      split <;> simp

theorem Fewest.of_leastLoaded (h : leastLoaded links = some (place, link)) :
    Fewest links place link := by
  induction links generalizing place link with
  | nil => simp [leastLoaded] at h
  | cons first links ih =>
    rw [leastLoaded] at h
    cases hrest : leastLoaded links with
    | none =>
      rw [leastLoaded_eq_none_iff.1 hrest] at h ⊢
      simp only [leastLoaded, Option.some.injEq, Prod.mk.injEq] at h
      obtain ⟨rfl, rfl⟩ := h
      refine ⟨rfl, ?_, nofun⟩
      intro other hother
      exact Nat.le_of_eq (congrArg pending (List.mem_singleton.1 hother).symm)
    | some best =>
      obtain ⟨place', best⟩ := best
      have hbest := ih hrest
      simp only [hrest] at h
      by_cases hle : first.pending ≤ best.pending
      · rw [if_pos hle, Option.some.injEq, Prod.mk.injEq] at h
        obtain ⟨rfl, rfl⟩ := h
        refine ⟨rfl, ?_, nofun⟩
        rw [List.forall_mem_cons]
        exact ⟨Nat.le_refl _, fun other hother => Nat.le_trans hle (hbest.le other hother)⟩
      · rw [if_neg hle, Option.some.injEq, Prod.mk.injEq] at h
        obtain ⟨rfl, rfl⟩ := h
        refine ⟨hbest.found, ?_, ?_⟩
        · rw [List.forall_mem_cons]
          exact ⟨Nat.le_of_not_le hle, hbest.le⟩
        · intro before hbefore other hother
          cases before with
          | zero =>
            rw [← Option.some.inj hother]
            exact Nat.lt_of_not_le hle
          | succ before => exact hbest.lt before (Nat.lt_of_succ_lt_succ hbefore) other hother

end Link

/-- The link for the next superpage holds the fewest, and has room. -/
lemma Pipeline.chosen_of_nextLink {pipeline : Pipeline} {place : Nat} {link : Link}
    (h : pipeline.nextLink = .ok (place, link)) :
    0 < pipeline.slots ∧ Link.Fewest pipeline.links place link ∧ link.queue.isFull = false := by
  unfold nextLink checkCapacity at h
  by_cases hslots : pipeline.slots = 0
  · simp [hslots] at h
  · simp only [if_neg hslots] at h
    cases hbest : Link.leastLoaded pipeline.links with
    | none => simp [hbest] at h
    | some best =>
      obtain ⟨place', link'⟩ := best
      simp only [hbest] at h
      by_cases hfull : link'.queue.isFull = true
      · simp [hfull] at h
      · rw [if_neg hfull, Except.ok.injEq, Prod.mk.injEq] at h
        obtain ⟨rfl, rfl⟩ := h
        exact ⟨Nat.pos_of_ne_zero hslots, .of_leastLoaded hbest, Bool.eq_false_iff.2 hfull⟩

end DmaReadout
