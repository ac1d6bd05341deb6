import Mathlib.Tactic.Lemma

/-!
# Counters that wrap

Driver and card count modulo 2^32, each for itself, and compare by subtracting. The bounds
below hold for all values of the counters, across the wrap.
-/

namespace DmaReadout

/-- A counter that advances by no more than is outstanding does not overtake. -/
lemma toNat_sub_le_of_advance {arrived counter count : UInt32} {pending : Nat}
    (hle : (arrived - counter).toNat ≤ pending)
    (hcount : count ≤ counter + UInt32.ofNat pending - arrived) :
    (arrived + count - counter).toNat ≤ pending := by
  rw [UInt32.le_iff_toNat_le] at hcount
  simp only [UInt32.toNat_sub, UInt32.toNat_add, UInt32.toNat_ofNat'] at hle hcount ⊢
  have harrived := arrived.toNat_lt
  have hcounter := counter.toNat_lt
  have hcount' := count.toNat_lt
  omega

/-- A counter that follows by no more than its distance closes up by as much. -/
lemma toNat_sub_of_follow {arrived counter : UInt32} {count : Nat}
    (hcount : count ≤ (arrived - counter).toNat) :
    (arrived - (counter + UInt32.ofNat count)).toNat = (arrived - counter).toNat - count := by
  simp only [UInt32.toNat_sub, UInt32.toNat_add, UInt32.toNat_ofNat'] at hcount ⊢
  have harrived := arrived.toNat_lt
  have hcounter := counter.toNat_lt
  omega

lemma toNat_sub_le_of_follow {arrived counter : UInt32} {pending count : Nat}
    (hle : (arrived - counter).toNat ≤ pending + count)
    (hcount : count ≤ (arrived - counter).toNat) :
    (arrived - (counter + UInt32.ofNat count)).toNat ≤ pending := by
  rw [toNat_sub_of_follow hcount]
  omega

lemma advance_add_outstanding_le {pushed arrived count : UInt32} {completed given : Nat}
    (hle : completed + (pushed - arrived).toNat ≤ given) (hcount : count ≤ pushed - arrived) :
    completed + (arrived + count - arrived).toNat + (pushed - (arrived + count)).toNat ≤
      given := by
  rw [UInt32.le_iff_toNat_le] at hcount
  simp only [UInt32.toNat_sub, UInt32.toNat_add] at hle hcount ⊢
  have hpushed := pushed.toNat_lt
  have harrived := arrived.toNat_lt
  have hcount' := count.toNat_lt
  omega

lemma succ_outstanding_le {pushed arrived : UInt32} {completed given : Nat}
    (hle : completed + (pushed - arrived).toNat ≤ given) :
    completed + (pushed + 1 - arrived).toNat ≤ given + (pushed + 1 - pushed).toNat := by
  simp only [UInt32.toNat_sub, UInt32.toNat_add, UInt32.toNat_one] at hle ⊢
  have hpushed := pushed.toNat_lt
  have harrived := arrived.toNat_lt
  omega

lemma total_advance {counter counter' : UInt32} {total : Nat} (h : counter = UInt32.ofNat total) :
    counter' = UInt32.ofNat (total + (counter' - counter).toNat) := by
  rw [UInt32.ofNat_add, UInt32.ofNat_toNat, ← h, UInt32.add_comm, UInt32.sub_add_cancel]

/-- The difference of two wrapped totals is never more than that of the totals. -/
lemma add_le_of_wrapped {moved completed count slack : Nat} (hle : moved ≤ completed)
    (hcount : count ≤ (UInt32.ofNat completed - UInt32.ofNat moved).toNat + slack) :
    moved + count ≤ completed + slack := by
  rw [UInt32.toNat_sub, UInt32.toNat_ofNat', UInt32.toNat_ofNat'] at hcount
  omega

/-- Wrapped totals that are less than 2^32 apart have the difference of the totals. -/
lemma toNat_ofNat_sub {moved completed : Nat} (hle : moved ≤ completed)
    (hlt : completed < moved + UInt32.size) :
    (UInt32.ofNat completed - UInt32.ofNat moved).toNat = completed - moved := by
  have hsize : UInt32.size = 4294967296 := rfl
  rw [UInt32.toNat_sub, UInt32.toNat_ofNat', UInt32.toNat_ofNat']
  omega

end DmaReadout
