import ClusterLaunch.Network.Block

/-! # Blocks as sets of addresses

The comparisons of blocks look at their ends and at masked addresses. All of them agree with one
reading: a block is the set of the addresses from its first to its last.
-/

namespace ClusterLaunch.Network.Block

variable {a b c : Block} {x : Address}

theorem mem_iff : x ∈ b ↔ b.base ≤ x.toNat ∧ x.toNat < b.base + b.size := by
  change b.base ≤ x.toNat ∧ x.toNat ≤ b.base + b.size - 1 ↔ _
  have := b.size_pos
  omega

theorem first_mem (b : Block) : b.first ∈ b := by
  rw [mem_iff]
  exact ⟨Nat.le_refl _, Nat.lt_add_of_pos_right b.size_pos⟩

theorem last_mem (b : Block) : b.last ∈ b := by
  rw [mem_iff]
  have := b.size_pos
  change b.base ≤ b.base + b.size - 1 ∧ b.base + b.size - 1 < b.base + b.size
  omega

/-- The addresses of a block share their quotient by its size. -/
theorem mem_iff_div : x ∈ b ↔ x.toNat / b.size = b.base / b.size := by
  obtain ⟨n, hn⟩ : b.size ∣ b.base := b.aligned
  have hpos := b.size_pos
  rw [mem_iff, hn, Nat.mul_div_cancel_left n hpos, Nat.div_eq_iff hpos, Nat.mul_comm b.size n]
  omega

/-- Masking an address gives the base of a block exactly for the addresses of the block. -/
theorem holds_iff : b.holds x = true ↔ x ∈ b := by
  have hdvd : b.size ∣ b.base := b.aligned
  have hmask : x.toNat - x.toNat % b.size = x.toNat / b.size * b.size :=
    Nat.div_mul_self_eq_mod_sub_self.symm
  rw [mem_iff_div, holds, beq_iff_eq, hmask, eq_comm]
  exact (Nat.eq_div_iff_mul_eq_left (Nat.ne_of_gt b.size_pos) hdvd).symm

theorem contains_iff : a.contains b = true ↔ ∀ x ∈ b, x ∈ a := by
  rw [contains, Bool.and_eq_true, decide_eq_true_eq, decide_eq_true_eq]
  constructor
  · rintro ⟨hfirst, hlast⟩ x ⟨hx, hx'⟩
    exact ⟨Nat.le_trans hfirst hx, Nat.le_trans hx' hlast⟩
  · intro h
    exact ⟨(h _ b.first_mem).1, (h _ b.last_mem).2⟩

/-- Two blocks meet at an end of one of them if they meet at all. -/
theorem overlaps_iff : a.overlaps b = true ↔ ∃ x, x ∈ a ∧ x ∈ b := by
  simp only [overlaps, Bool.or_eq_true, holds_iff]
  constructor
  · rintro (((h | h) | h) | h)
    · exact ⟨_, h, b.first_mem⟩
    · exact ⟨_, h, b.last_mem⟩
    · exact ⟨_, a.first_mem, h⟩
    · exact ⟨_, a.last_mem, h⟩
  · rintro ⟨x, ⟨ha, ha'⟩, hb, hb'⟩
    rcases Nat.le_total a.base b.base with h | h
    · exact .inl (.inl (.inl ⟨h, Nat.le_trans hb ha'⟩))
    · exact .inl (.inr ⟨h, Nat.le_trans ha hb'⟩)

theorem overlaps_eq_false_iff : a.overlaps b = false ↔ ∀ x ∈ a, x ∉ b := by
  rw [← Bool.not_eq_true, overlaps_iff]
  exact ⟨fun h x ha hb => h ⟨x, ha, hb⟩, fun h ⟨x, ha, hb⟩ => h x ha hb⟩

end ClusterLaunch.Network.Block
