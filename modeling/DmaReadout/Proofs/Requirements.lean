import DmaReadout.Error
import Mathlib.Tactic.Lemma

/-!
# Requirements

A program that checks one thing after another refuses for the first that is not met.
-/

namespace DmaReadout

variable {α : Type}

/-- A condition, with the error where it is not met. -/
structure Requirement where
  met : Bool
  refusal : ReadoutError
deriving DecidableEq

namespace Requirement

/-- The result if all requirements are met, and otherwise the error of the first that is not. -/
def enforce : List Requirement → Except ReadoutError α → Except ReadoutError α
  | [], result => result
  | requirement :: requirements, result =>
    if requirement.met then enforce requirements result else .error requirement.refusal

variable {requirement : Requirement} {requirements : List Requirement}
  {result : Except ReadoutError α}

lemma enforce_of_met (h : ∀ requirement ∈ requirements, requirement.met = true) :
    enforce requirements result = result := by
  induction requirements with
  | nil => rfl
  | cons requirement requirements ih =>
    rw [List.forall_mem_cons] at h
    rw [enforce, if_pos h.1, ih h.2]

lemma enforce_of_find? (h : requirements.find? (!·.met) = some requirement) :
    enforce requirements result = .error requirement.refusal := by
  induction requirements with
  | nil => cases h
  | cons first requirements ih =>
    rw [enforce]
    by_cases hmet : first.met = true
    · rw [List.find?_cons_of_neg (by rw [hmet]; decide)] at h
      rw [if_pos hmet, ih h]
    · rw [List.find?_cons_of_pos (by rw [Bool.eq_false_iff.2 hmet]; decide), Option.some.injEq] at h
      rw [if_neg hmet, h]

lemma enforce_ok_iff {a b : α} : enforce requirements (.ok a) = .ok b ↔
    (∀ requirement ∈ requirements, requirement.met = true) ∧ a = b := by
  induction requirements with
  | nil => simp [enforce]
  | cons requirement requirements ih =>
    rw [enforce, List.forall_mem_cons]
    by_cases hmet : requirement.met = true
    · rw [if_pos hmet, ih, and_iff_right hmet]
    · rw [if_neg hmet]
      exact iff_of_false nofun fun h => hmet h.1.1

/-- A check that refuses whatever does not meet the first requirement. -/
lemma ite_eq_enforce {c : Prop} [Decidable c] {met : Bool} {refusal : ReadoutError}
    {other : Except ReadoutError α} (hc : c ↔ ¬ met = true)
    (hother : met = true → other = enforce requirements result) :
    (if c then .error refusal else other) = enforce (⟨met, refusal⟩ :: requirements) result := by
  rw [enforce]
  by_cases hmet : met = true
  · rw [if_neg fun h => hc.1 h hmet, if_pos hmet, hother hmet]
  · rw [if_pos (hc.2 hmet), if_neg hmet]

end Requirement

end DmaReadout
