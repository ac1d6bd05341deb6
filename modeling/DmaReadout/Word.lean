/-!
# Checked word arithmetic

Sums and conversions of machine words that refuse to wrap or to cut off.
-/

namespace DmaReadout.Word

/-- The sum of two 64-bit words, if it is below 2^64. -/
def add? (a b : UInt64) : Option UInt64 :=
  if a + b < a then none else some (a + b)

/-- The 32-bit word of equal value, if the value is below 2^32. -/
def narrow? (n : UInt64) : Option UInt32 :=
  if n ≤ 0xffffffff then some n.toUInt32 else none

theorem add?_eq_some_iff {a b c : UInt64} :
    add? a b = some c ↔ a.toNat + b.toNat = c.toNat := by
  have ha := a.toNat_lt
  have hb := b.toNat_lt
  have hc := c.toNat_lt
  unfold add?
  split <;> rename_i h <;> rw [UInt64.lt_iff_toNat_lt, UInt64.toNat_add] at h
  · simp only [reduceCtorEq, false_iff]
    omega
  · rw [Option.some.injEq, ← UInt64.toNat_inj, UInt64.toNat_add]
    omega

theorem add?_eq_none_iff {a b : UInt64} :
    add? a b = none ↔ UInt64.size ≤ a.toNat + b.toNat := by
  have ha := a.toNat_lt
  have hb := b.toNat_lt
  have hs : UInt64.size = 18446744073709551616 := rfl
  unfold add?
  split <;> rename_i h <;> rw [UInt64.lt_iff_toNat_lt, UInt64.toNat_add] at h
  · simp only [true_iff]
    omega
  · simp only [reduceCtorEq, false_iff]
    omega

theorem narrow?_eq_some_iff {n : UInt64} {m : UInt32} :
    narrow? n = some m ↔ n.toNat = m.toNat := by
  have hn := n.toNat_lt
  have hm := m.toNat_lt
  unfold narrow?
  split <;> rename_i h <;> rw [UInt64.le_iff_toNat_le] at h
  · rw [Option.some.injEq, ← UInt32.toNat_inj, UInt64.toNat_toUInt32]
    simp at h
    omega
  · simp at h ⊢
    omega

theorem narrow?_eq_none_iff {n : UInt64} : narrow? n = none ↔ UInt32.size ≤ n.toNat := by
  have hs : UInt32.size = 4294967296 := rfl
  unfold narrow?
  split <;> rename_i h <;> rw [UInt64.le_iff_toNat_le] at h
  · simp at h ⊢
    omega
  · simp at h ⊢
    omega

theorem eq_add_of_add? {a b c : UInt64} (h : add? a b = some c) : c = a + b := by
  unfold add? at h
  split at h
  · cases h
  · exact (Option.some.inj h).symm

theorem eq_toUInt32_of_narrow? {n : UInt64} {m : UInt32} (h : narrow? n = some m) :
    m = n.toUInt32 := by
  unfold narrow? at h
  split at h
  · exact (Option.some.inj h).symm
  · cases h

theorem mod_ne_zero_iff {a b : UInt64} : a % b ≠ 0 ↔ ¬ b.toNat ∣ a.toNat := by
  rw [Ne, ← UInt64.toNat_inj, UInt64.toNat_mod, Nat.dvd_iff_mod_eq_zero]
  rfl

end DmaReadout.Word
