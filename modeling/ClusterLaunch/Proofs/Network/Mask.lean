import ClusterLaunch.Network.Reader
import Mathlib.Algebra.Order.Ring.Nat
import Mathlib.Data.Set.Function
import Mathlib.Order.Interval.Set.Defs

/-! # Netmasks and hostmasks

A netmask keeps the leading bits of an address, and a hostmask is what it clears. No number stands
for two lengths: netmasks differ from each other and so do hostmasks, and a number that is both
has no bits or all of them.
-/

namespace ClusterLaunch.Network

theorem netmask_eq {k : Nat} (h : k ≤ 32) : netmask (32 - k) = 2 ^ k * (2 ^ (32 - k) - 1) := by
  change 2 ^ 32 - 2 ^ (32 - (32 - k)) = _
  rw [Nat.sub_sub_self h, Nat.mul_sub, ← Nat.pow_add, Nat.add_sub_of_le h, Nat.mul_one]

/-- Below the mask all bits are cleared, above it all bits of an address are kept. -/
theorem and_netmask {n k : Nat} (hn : n < 2 ^ 32) (hk : k ≤ 32) :
    n &&& netmask (32 - k) = n - n % 2 ^ k := by
  have hclear : n - n % 2 ^ k = 2 ^ k * (n / 2 ^ k) := by
    have := Nat.div_add_mod n (2 ^ k)
    omega
  rw [netmask_eq hk, hclear]
  refine Nat.eq_of_testBit_eq fun i => ?_
  rw [Nat.testBit_and, Nat.testBit_two_pow_mul, Nat.testBit_two_pow_mul,
    Nat.testBit_two_pow_sub_one, Nat.testBit_div_two_pow]
  -- Bit `i` is kept if it is one of the bits from `k` on, and an address has none from 32 on.
  by_cases hlow : k ≤ i
  · rw [Nat.sub_add_cancel hlow]
    by_cases hhigh : i < 32
    · have : i - k < 32 - k := by omega
      simp [hlow, this]
    · have : n.testBit i = false :=
        Nat.testBit_lt_two_pow (hn.trans_le (Nat.pow_le_pow_right Nat.two_pos (by omega)))
      simp [this]
  · simp [hlow]

theorem two_pow_injOn : Set.InjOn (fun p => 2 ^ (32 - p)) (Set.Iio 33) := by
  intro p hp q hq h
  have hbits : 32 - p = 32 - q := Nat.pow_right_injective (le_refl 2) h
  simp only [Set.mem_Iio] at hp hq
  omega

theorem two_pow_le (p : Nat) : 2 ^ (32 - p) ≤ 2 ^ 32 :=
  Nat.pow_le_pow_right Nat.two_pos (Nat.sub_le 32 p)

theorem netmask_injOn : Set.InjOn netmask (Set.Iio 33) := by
  intro p hp q hq h
  change 2 ^ 32 - 2 ^ (32 - p) = 2 ^ 32 - 2 ^ (32 - q) at h
  have hle := two_pow_le p
  have hle' := two_pow_le q
  exact two_pow_injOn hp hq (show 2 ^ (32 - p) = 2 ^ (32 - q) by omega)

theorem hostmask_injOn : Set.InjOn hostmask (Set.Iio 33) := by
  intro p hp q hq h
  change 2 ^ (32 - p) - 1 = 2 ^ (32 - q) - 1 at h
  have hpos := Nat.two_pow_pos (32 - p)
  have hpos' := Nat.two_pow_pos (32 - q)
  exact two_pow_injOn hp hq (show 2 ^ (32 - p) = 2 ^ (32 - q) by omega)

/-- A hostmask of some bits but not of all is odd, and a netmask is so only if it is full. -/
theorem netmask_ne_hostmask {p q : Nat} (hq : 1 ≤ q) (hq' : q ≤ 31) :
    netmask p ≠ hostmask q := by
  intro h
  change 2 ^ 32 - 2 ^ (32 - p) = 2 ^ (32 - q) - 1 at h
  have hle := two_pow_le p
  have hsmall : 2 ^ (32 - q) ≤ 2 ^ 31 := Nat.pow_le_pow_right Nat.two_pos (by omega)
  have hpos := Nat.two_pow_pos (32 - q)
  have heven : 2 ∣ 2 ^ (32 - q) := dvd_pow_self 2 (by omega)
  rcases Nat.eq_zero_or_pos (32 - p) with hfull | hpart
  · rw [hfull] at h
    omega
  · have heven' : 2 ∣ 2 ^ (32 - p) := dvd_pow_self 2 hpart.ne'
    omega

/-- A search among the lengths finds the only one of its kind. -/
theorem find?_range_eq_some_iff {f : Nat → Nat} {n m p : Nat} (hf : Set.InjOn f (Set.Iio n)) :
    (List.range n).find? (f · == m) = some p ↔ p < n ∧ f p = m := by
  rw [List.find?_range_eq_some, beq_iff_eq, List.mem_range]
  constructor
  · rintro ⟨hm, hp, -⟩
    exact ⟨hp, hm⟩
  · rintro ⟨hp, hm⟩
    refine ⟨hm, hp, fun q hq => ?_⟩
    rw [Bool.not_eq_true', beq_eq_false_iff_ne]
    intro hqm
    exact hq.ne (hf (hq.trans hp) hp (hqm.trans hm.symm))

theorem hostmask_zero : hostmask 0 = netmask 32 := rfl

theorem hostmask_thirtyTwo : hostmask 32 = netmask 0 := rfl

/-- A number stands for the length of its netmask, or else for the length of its hostmask. -/
theorem bitsOfMask?_eq_some_iff {n p : Nat} :
    bitsOfMask? n = some p ↔
      p ≤ 32 ∧ netmask p = n ∨ 1 ≤ p ∧ p ≤ 31 ∧ hostmask p = n := by
  have hnone : (List.range 33).find? (netmask · == n) = none ↔ ∀ q < 33, netmask q ≠ n := by
    simp
  rw [bitsOfMask?, Option.orElse_eq_orElse, Option.orElse_eq_or, Option.or_eq_some_iff,
    find?_range_eq_some_iff netmask_injOn, find?_range_eq_some_iff hostmask_injOn, hnone,
    Nat.lt_succ_iff]
  refine or_congr_right ⟨?_, ?_⟩
  -- The hostmasks of no bits and of all are netmasks, which are found before them.
  · rintro ⟨hnot, hp, hm⟩
    refine ⟨?_, ?_, hm⟩
    · rcases Nat.eq_zero_or_pos p with rfl | hpos
      · exact absurd (hostmask_zero ▸ hm) (hnot 32 (by decide))
      · exact hpos
    · rcases Nat.lt_or_ge p 32 with hlt | hge
      · exact Nat.le_of_lt_succ hlt
      · obtain rfl : p = 32 := le_antisymm hp hge
        exact absurd (hostmask_thirtyTwo ▸ hm) (hnot 0 (by decide))
  · rintro ⟨hpos, hle, rfl⟩
    exact ⟨fun q _ => netmask_ne_hostmask hpos hle, hle.trans (by decide), rfl⟩

end ClusterLaunch.Network
