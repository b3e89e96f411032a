import ClusterLaunch.Proofs.Network.Membership
import Mathlib.Algebra.Order.Ring.Nat

/-! # Blocks are nested or apart

The addresses of a block share their quotient by its size. The sizes are powers of two, so of two
blocks that meet the smaller one lies within the larger one.
-/

namespace ClusterLaunch.Network.Block

variable {a b c : Block} {x : Address}

theorem mem_around (x : Address) {bits : Nat} (h : bits ≤ 32) : x ∈ around x bits h := by
  rw [← holds_iff, holds, beq_iff_eq]
  rfl

theorem around_base (x : Address) {bits : Nat} (h : bits ≤ 32) :
    (around x bits h).base = x.toNat / 2 ^ (32 - bits) * 2 ^ (32 - bits) :=
  Nat.div_mul_self_eq_mod_sub_self.symm

theorem size_dvd_size (h : a.size ≤ b.size) : a.size ∣ b.size := by
  have hbits : 32 - a.bits ≤ 32 - b.bits := (Nat.pow_le_pow_iff_right Nat.one_lt_two).mp h
  exact Nat.pow_dvd_pow 2 hbits

/-- A block that meets another one and is no larger lies within it. -/
theorem subset_of_mem (hle : a.size ≤ b.size) (ha : x ∈ a) (hb : x ∈ b) : ∀ y ∈ a, y ∈ b := by
  intro y hy
  -- Equal quotients by the smaller size stay equal when they are divided on.
  obtain ⟨k, hk⟩ := size_dvd_size hle
  rw [mem_iff_div] at ha hb hy ⊢
  calc y.toNat / b.size = y.toNat / a.size / k := by rw [hk, Nat.div_div_eq_div_mul]
    _ = x.toNat / a.size / k := by rw [hy, ha]
    _ = x.toNat / b.size := by rw [hk, Nat.div_div_eq_div_mul]
    _ = b.base / b.size := hb

theorem overlaps_comm (a b : Block) : a.overlaps b = b.overlaps a := by
  rw [Bool.eq_iff_iff, overlaps_iff, overlaps_iff]
  simp only [and_comm]

theorem overlaps_self (a : Block) : a.overlaps a = true :=
  overlaps_iff.mpr ⟨_, a.first_mem, a.first_mem⟩

theorem contains_self (a : Block) : a.contains a = true := contains_iff.mpr fun _ h => h

theorem contains_trans (hab : a.contains b = true) (hbc : b.contains c = true) :
    a.contains c = true := by
  rw [contains_iff] at hab hbc ⊢
  intro x hx
  exact hab x (hbc x hx)

theorem overlaps_of_contains (hab : a.contains b = true) (hbc : b.overlaps c = true) :
    a.overlaps c = true := by
  rw [contains_iff] at hab
  rw [overlaps_iff] at hbc ⊢
  obtain ⟨x, hb, hc⟩ := hbc
  exact ⟨x, hab x hb, hc⟩

/-- Two blocks meet exactly if one of them lies within the other. -/
theorem overlaps_iff_contains :
    a.overlaps b = true ↔ a.contains b = true ∨ b.contains a = true := by
  constructor
  · intro h
    obtain ⟨x, ha, hb⟩ := overlaps_iff.mp h
    rcases Nat.le_total a.size b.size with hle | hle
    · exact .inr (contains_iff.mpr (subset_of_mem hle ha hb))
    · exact .inl (contains_iff.mpr (subset_of_mem hle hb ha))
  · rintro (h | h)
    · exact overlaps_of_contains h (overlaps_self b)
    · rw [overlaps_comm]
      exact overlaps_of_contains h (overlaps_self a)

/-- A block is given by its first address and its size. -/
theorem eq_of_base_of_size (hbase : a.base = b.base) (hsize : a.size = b.size) : a = b := by
  have hpow : 32 - a.bits = 32 - b.bits := Nat.pow_right_injective (le_refl 2) hsize
  have ha := a.bits_le
  have hb := b.bits_le
  have hbits : a.bits = b.bits := by omega
  cases a
  cases b
  subst hbase hbits
  rfl

theorem contains_antisymm (hab : a.contains b = true) (hba : b.contains a = true) : a = b := by
  rw [contains_iff] at hab hba
  have hfirst := mem_iff.mp (hab _ b.first_mem)
  have hlast := mem_iff.mp (hab _ b.last_mem)
  have hfirst' := mem_iff.mp (hba _ a.first_mem)
  have hlast' := mem_iff.mp (hba _ a.last_mem)
  have ha := a.size_pos
  have hb := b.size_pos
  simp only [first, last] at hfirst hlast hfirst' hlast'
  exact eq_of_base_of_size (by omega) (by omega)

end ClusterLaunch.Network.Block
