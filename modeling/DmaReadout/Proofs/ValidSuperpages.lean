import DmaReadout.Proofs.PushOutcome
import DmaReadout.Proofs.Requirements

/-!
# Which superpages a push accepts

A superpage goes through six checks, and the first that it does not pass decides the error. Taken
together they accept the superpages that meet six requirements on natural numbers: no sum wraps,
and nothing is cut off.
-/

namespace DmaReadout

variable {κ : Type}

/-- What a superpage has to meet, in the order of the checks. The sums are those of natural
numbers. -/
def LinearBuffer.requirements (buffer : LinearBuffer) (pageSize : UInt64)
    (superpage : Superpage) : List Requirement :=
  let page := pageSize.toNat
  let offset := superpage.offset.toNat
  let size := superpage.size.toNat
  let invalid := ReadoutError.invalidSuperpage superpage.offset superpage.size
  [⟨0 < size, invalid .zeroSize⟩,
    ⟨page ∣ size, invalid .brokenPage⟩,
    ⟨4 ∣ offset, invalid .misaligned⟩,
    ⟨offset + size ≤ buffer.size.toNat, invalid .outsideBuffer⟩,
    ⟨size / page < UInt32.size, invalid .tooManyPages⟩,
    ⟨buffer.base.toNat + offset < UInt64.size,
      .hardware (.because s!"bus address of offset {Text.hexadecimal offset} overflows")⟩]

open Requirement (ite_eq_enforce)

variable {endpoint : Endpoint κ} {buffer : LinearBuffer} {superpage : Superpage}

/-- Within the buffer, the bus address is the sum, unless that wraps. -/
lemma LinearBuffer.busAddress_eq {offset : UInt64} (hinside : offset.toNat < buffer.size.toNat) :
    buffer.busAddress offset = if UInt64.size ≤ buffer.base.toNat + offset.toNat then
        .error (.because s!"bus address of offset {Text.hexadecimal offset.toNat} overflows")
      else .ok (buffer.base + offset) := by
  have hoffset : ¬ offset ≥ buffer.size := by
    rw [ge_iff_le, UInt64.le_iff_toNat_le]
    exact Nat.not_le.2 hinside
  unfold busAddress
  rw [if_neg hoffset]
  cases hsum : Word.add? buffer.base offset with
  | none => rw [if_pos (Word.add?_eq_none_iff.1 hsum)]
  | some sum =>
    have hlt := sum.toNat_lt
    rw [← Word.add?_eq_some_iff.1 hsum] at hlt
    rw [if_neg (Nat.not_le.2 hlt), Word.eq_add_of_add? hsum]

/-- The checks of a superpage end at the first requirement that is not met. -/
theorem Endpoint.checkSuperpage_eq (hbuffer : endpoint.buffer = buffer.toBuffer) :
    endpoint.checkSuperpage superpage =
      Requirement.enforce (buffer.requirements endpoint.parameters.pageSize superpage)
        (.ok ((superpage.size / endpoint.parameters.pageSize).toUInt32,
          buffer.base + superpage.offset)) := by
  unfold checkSuperpage LinearBuffer.requirements
  dsimp only
  rw [hbuffer]
  apply ite_eq_enforce
  · rw [decide_eq_true_iff, Nat.not_lt, Nat.le_zero, ← UInt64.toNat_inj]
    rfl
  intro hsize
  apply ite_eq_enforce
  · rw [decide_eq_true_iff]
    exact Word.mod_ne_zero_iff
  intro _
  apply ite_eq_enforce
  · rw [decide_eq_true_iff]
    exact Word.mod_ne_zero_iff
  intro _
  cases hstop : Word.add? superpage.offset superpage.size with
  | none =>
    have hbeyond : ¬ superpage.offset.toNat + superpage.size.toNat ≤ buffer.size.toNat := by
      have hwraps := Word.add?_eq_none_iff.1 hstop
      exact Nat.not_le.2 (Nat.lt_of_lt_of_le buffer.size.toNat_lt hwraps)
    rw [Requirement.enforce, decide_eq_false hbeyond]
    rfl
  | some stop =>
    have hsum := Word.add?_eq_some_iff.1 hstop
    dsimp only
    apply ite_eq_enforce
    · rw [decide_eq_true_iff, gt_iff_lt, UInt64.lt_iff_toNat_lt, ← hsum, Nat.not_le]
      rfl
    intro hinside
    rw [← UInt64.toNat_div]
    cases hpages : Word.narrow? (superpage.size / endpoint.parameters.pageSize) with
    | none =>
      have hmany := Nat.not_lt.2 (Word.narrow?_eq_none_iff.1 hpages)
      rw [Requirement.enforce, decide_eq_false hmany]
      rfl
    | some pages =>
      have hfew := pages.toNat_lt
      rw [← Word.narrow?_eq_some_iff.1 hpages] at hfew
      rw [Requirement.enforce, if_pos (decide_eq_true hfew)]
      dsimp only
      have hoffset : superpage.offset.toNat < buffer.size.toNat := by
        rw [decide_eq_true_iff] at hinside hsize
        omega
      have haddress : buffer.toBuffer.busAddress superpage.offset = _ :=
        LinearBuffer.busAddress_eq hoffset
      rw [haddress, Word.eq_toUInt32_of_narrow? hpages, Requirement.enforce]
      by_cases hwraps : UInt64.size ≤ buffer.base.toNat + superpage.offset.toNat
      · rw [if_pos hwraps, decide_eq_false (Nat.not_lt.2 hwraps)]
        rfl
      · rw [if_neg hwraps, decide_eq_true (Nat.not_le.1 hwraps)]
        rfl

namespace Endpoint

/-- A running channel with a free slot accepts the superpages that meet all requirements, as long as
the card takes the descriptor. It refuses every other for the first requirement that is not met,
before anything happens. A full channel refuses all superpages alike. -/
theorem push_accepts_valid (endpoint : Endpoint κ) (card : κ) (channel : Channel κ)
    (hopen : endpoint.openChannel card = .ok channel) (turns : List (Turn κ))
    (buffer : LinearBuffer) (superpage : Superpage) :
    let mapped := { endpoint with buffer := buffer.toBuffer }
    let before := endpoint.afterTurns channel turns
    let requirements := buffer.requirements endpoint.parameters.pageSize superpage
    before.lifecycle = .running →
      (0 < before.pipeline.slots →
        (mapped.Takes superpage before →
          (answer (mapped.push superpage) before = .ok () ↔
            ∀ requirement ∈ requirements, requirement.met = true)) ∧
        ∀ unmet, requirements.find? (!·.met) = some unmet →
          mapped.Refuses superpage before unmet.refusal) ∧
      (before.pipeline.slots = 0 → mapped.Refuses superpage before .queueFull) := by
  intro mapped before requirements hrunning
  have hbalanced : Balanced before.pipeline := balanced_of_openChannel hopen turns
  have hcheck : mapped.checkSuperpage superpage = _ := checkSuperpage_eq rfl
  have hunmet (hslots : 0 < before.pipeline.slots) (unmet : Requirement)
      (hfind : requirements.find? (!·.met) = some unmet) :
      mapped.Refuses superpage before unmet.refusal := by
    rw [Requirement.enforce_of_find? hfind] at hcheck
    exact refuses_of_invalid hrunning hslots hcheck
  refine ⟨fun hslots => ⟨fun htakes => ⟨?_, ?_⟩, hunmet hslots⟩, refuses_of_full hrunning⟩
  · intro haccepted requirement hmem
    cases hfind : requirements.find? (!·.met) with
    | some unmet =>
      rw [answer, (hunmet hslots unmet hfind).answered] at haccepted
      cases haccepted
    | none =>
      have hmet := List.find?_eq_none.1 hfind requirement hmem
      rwa [Bool.not_eq_true', Bool.not_eq_false] at hmet
  · intro hmet
    rw [Requirement.enforce_of_met hmet] at hcheck
    obtain ⟨place, link, last, hpush, -⟩ := push_of_takes hbalanced hrunning hslots hcheck htakes
    rw [answer, hpush]

/-- The largest superpage has one page less than a count of 32 bits can tell. The last page of this
buffer lies beyond the addresses. -/
theorem push_accepts_valid_largest :
    let card : ScriptedCard := ([], { completion := .manual })
    let channel := twoLinksChannel card
    let start : Turn ScriptedCard := .call ⟨.start, twoLinks.buffer⟩
    let buffer : LinearBuffer := { size := 0x200000000000, base := 0xffffe00000002000 }
    let mapped := { twoLinks with buffer := buffer.toBuffer }
    let before := twoLinks.afterTurns channel [start]
    let push : Turn ScriptedCard := .call ⟨.push ⟨0, 8192, 0, false, 0⟩, buffer.toBuffer⟩
    let filling := [start, push, push, push, push]
    twoLinks.openChannel card = .ok channel ∧ before.lifecycle = .running ∧
      before.pipeline.slots = 4 ∧ (twoLinks.afterTurns channel filling).lifecycle = .running ∧
      (twoLinks.afterTurns channel filling).pipeline.slots = 0 ∧
      mapped.Takes ⟨0, 0x1fffffffe000, 0, false, 1⟩ before ∧
      answer (mapped.push ⟨0, 0x1fffffffe000, 0, false, 1⟩) before = .ok () ∧
      mapped.Refuses ⟨0, 0x200000000000, 0, false, 2⟩ before
        (.invalidSuperpage 0 0x200000000000 .tooManyPages) ∧
      mapped.Refuses ⟨0x1fffffffe000, 8192, 0, false, 3⟩ before
        (.hardware (.because "bus address of offset 0x1fffffffe000 overflows")) ∧
      mapped.Refuses ⟨2, 0, 0, false, 4⟩ (twoLinks.afterTurns channel filling) .queueFull := by
  intro card channel start buffer mapped before push filling
  have hopen := openChannel_twoLinks card
  have hrunning : before.lifecycle = .running := by decide +kernel
  have hslots : before.pipeline.slots = 4 := by decide +kernel
  have hfree : 0 < before.pipeline.slots := by rw [hslots]; decide
  have hstill : (twoLinks.afterTurns channel filling).lifecycle = .running := by decide +kernel
  have hnone : (twoLinks.afterTurns channel filling).pipeline.slots = 0 := by decide +kernel
  have htakes : mapped.Takes ⟨0, 0x1fffffffe000, 0, false, 1⟩ before := by decide +kernel
  have haccepts (superpage : Superpage) := ((push_accepts_valid twoLinks card channel hopen [start]
    buffer superpage) hrunning).1 hfree
  refine ⟨hopen, hrunning, hslots, hstill, hnone, htakes, ?_, ?_, ?_, ?_⟩
  · refine ((haccepts _).1 htakes).2 ?_
    decide +kernel
  · refine (haccepts _).2 ⟨false, .invalidSuperpage 0 0x200000000000 .tooManyPages⟩ ?_
    decide +kernel
  · refine (haccepts _).2
      ⟨false, .hardware (.because "bus address of offset 0x1fffffffe000 overflows")⟩ ?_
    decide +kernel
  · exact ((push_accepts_valid twoLinks card channel hopen filling buffer
      ⟨2, 0, 0, false, 4⟩) hstill).2 hnone

end Endpoint

end DmaReadout
