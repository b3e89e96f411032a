import ClusterLaunch.Decimal.Shortest
import ClusterLaunch.Proofs.Decimal.Interval

/-! # Shortest decimals

The shortest decimal of a double belongs to the double. One that the search finds does because the
search has compared it with the ends of the interval. If the search finds none it falls back on
seventeen digits, which come near enough to every double.
-/

namespace ClusterLaunch.Decimal

def Scientific.value (d : Scientific) : ℚ := d.digits * 10 ^ d.exponent

def valueAt (k : ℕ) : ℚ := mantissaAt k * 2 ^ exponentAt k

section Fractions

structure Denotes (f : ℕ × ℕ) (q : ℚ) : Prop where
  pos : 0 < f.2
  eq : (f.1 : ℚ) = q * f.2

variable {f g : ℕ × ℕ} {p q : ℚ}

theorem Denotes.le_iff (hf : Denotes f p) (hg : Denotes g q) : f.1 * g.2 ≤ g.1 * f.2 ↔ p ≤ q := by
  have hfpos : (0 : ℚ) < f.2 := by exact_mod_cast hf.pos
  have hgpos : (0 : ℚ) < g.2 := by exact_mod_cast hg.pos
  rw [← @Nat.cast_le ℚ, Nat.cast_mul, Nat.cast_mul, hf.eq, hg.eq, mul_right_comm q,
    mul_le_mul_iff_left₀ hgpos, mul_le_mul_iff_left₀ hfpos]

theorem Denotes.lt_iff (hf : Denotes f p) (hg : Denotes g q) : f.1 * g.2 < g.1 * f.2 ↔ p < q := by
  rw [← not_le, ← not_le, hg.le_iff hf]

theorem Denotes.lt_one_iff (hf : Denotes f p) : f.1 < f.2 ↔ p < 1 := by
  have hone : Denotes (1, 1) 1 := ⟨one_pos, by simp⟩
  have h := hf.lt_iff hone
  rwa [mul_one, one_mul] at h

/-- The ends of an interval count or not. -/
theorem Denotes.within_iff {m : ℕ} {low value high : ℕ × ℕ} {p q r : ℚ} (hlow : Denotes low p)
    (hvalue : Denotes value q) (hhigh : Denotes high r) :
    (if m % 2 = 0 then
      decide (low.1 * value.2 ≤ value.1 * low.2) && decide (value.1 * high.2 ≤ high.1 * value.2)
    else
      decide (low.1 * value.2 < value.1 * low.2) && decide (value.1 * high.2 < high.1 * value.2)) =
      true ↔ if m % 2 = 0 then p ≤ q ∧ q ≤ r else p < q ∧ q < r := by
  split
  · rw [Bool.and_eq_true, decide_eq_true_iff, decide_eq_true_iff]
    exact and_congr (hlow.le_iff hvalue) (hvalue.le_iff hhigh)
  · rw [Bool.and_eq_true, decide_eq_true_iff, decide_eq_true_iff]
    exact and_congr (hlow.lt_iff hvalue) (hvalue.lt_iff hhigh)

theorem denotes_scaled {b : ℕ} (hb : 0 < b) (n : ℕ) (e : ℤ) :
    Denotes (if 0 ≤ e then (n * Nat.pow b e.toNat, 1) else (n, Nat.pow b (-e).toNat))
      (n * (b : ℚ) ^ e) := by
  have hbq : (b : ℚ) ≠ 0 := by exact_mod_cast hb.ne'
  split
  · rename_i he
    obtain ⟨i, rfl⟩ := Int.eq_ofNat_of_zero_le he
    exact ⟨one_pos, by simp⟩
  · rename_i he
    obtain ⟨i, rfl⟩ : ∃ i : ℕ, e = -i := ⟨(-e).toNat, by omega⟩
    exact ⟨Nat.pow_pos hb, by simp [hbq]⟩

theorem denotes_fraction (m : ℕ) (e : ℤ) : Denotes (fraction m e) (m * 2 ^ e) :=
  denotes_scaled two_pos m e

theorem Denotes.inTens (h : Denotes f q) (e : ℤ) : Denotes (inTens f.1 f.2 e) (q / 10 ^ e) := by
  unfold Decimal.inTens
  split
  · rename_i he
    obtain ⟨i, rfl⟩ := Int.eq_ofNat_of_zero_le he
    refine ⟨Nat.mul_pos h.pos (Nat.pow_pos (by norm_num)), ?_⟩
    simp [h.eq]
    field_simp
  · rename_i he
    obtain ⟨i, rfl⟩ : ∃ i : ℕ, e = -i := ⟨(-e).toNat, by omega⟩
    refine ⟨h.pos, ?_⟩
    simp [h.eq]
    ring

/-- Rounding moves a quotient by half a unit at most. -/
theorem roundDiv_mul_bounds (num : ℕ) {den : ℕ} (hden : 0 < den) :
    2 * (roundDiv num den * den) ≤ 2 * num + den ∧
      2 * num ≤ 2 * (roundDiv num den * den) + den := by
  have hdivision := Nat.div_add_mod num den
  have hlt := Nat.mod_lt num hden
  unfold roundDiv
  dsimp only
  rw [mul_comm den] at hdivision
  generalize num / den = quotient at hdivision ⊢
  have hsucc : (quotient + 1) * den = quotient * den + den := Nat.succ_mul quotient den
  split_ifs <;> omega

theorem Denotes.abs_roundDiv_sub_le (h : Denotes f q) : |(roundDiv f.1 f.2 : ℚ) - q| ≤ 1 / 2 := by
  have hpos : (0 : ℚ) < f.2 := by exact_mod_cast h.pos
  obtain ⟨hhigh, hlow⟩ := roundDiv_mul_bounds f.1 h.pos
  qify at hlow hhigh
  rw [h.eq] at hlow hhigh
  rw [abs_le]
  constructor <;> nlinarith

end Fractions

section Grids

variable {m : ℕ} {e : ℤ}

theorem abs_onGrid_sub_le (m : ℕ) (e place : ℤ) :
    |(onGrid m e place).value - m * 2 ^ e| ≤ 10 ^ place / 2 := by
  have hunit : (0 : ℚ) < 10 ^ place := by positivity
  have hround := ((denotes_fraction m e).inTens place).abs_roundDiv_sub_le
  calc |(onGrid m e place).value - m * 2 ^ e|
    _ = |((onGrid m e place).digits - m * 2 ^ e / 10 ^ place : ℚ) * 10 ^ place| := by
      rw [sub_mul, div_mul_cancel₀ _ hunit.ne']
      rfl
    _ = |((onGrid m e place).digits - m * 2 ^ e / 10 ^ place : ℚ)| * 10 ^ place := by
      rw [abs_mul, abs_of_pos hunit]
    _ ≤ 1 / 2 * 10 ^ place := mul_le_mul_of_nonneg_right hround hunit.le
    _ = 10 ^ place / 2 := one_div_mul_eq_div _ _

/-- The first exponent whose power of ten exceeds a number is at most one too large. -/
theorem Denotes.le_of_climb {f : ℕ × ℕ} {q : ℚ} (h : Denotes f q) (steps : ℕ) {e : ℤ}
    (he : 10 ^ (e - 1) ≤ q) : 10 ^ (climb f.1 f.2 steps e - 1) ≤ q := by
  induction steps generalizing e with
  | zero => exact he
  | succ steps ih =>
    unfold climb
    dsimp only
    split
    · exact he
    · rename_i hlarge
      refine ih ?_
      rw [(h.inTens e).lt_one_iff, div_lt_one (by positivity), not_lt] at hlarge
      rwa [add_sub_cancel_right]

/-- The estimate of how many digits a power of two has is not too large. -/
theorem tens_le_two_zpow {l : ℤ} (hlow : -1074 ≤ l) (hhigh : l < 1024) :
    10 ^ ((l * 30103).fdiv 100000 - 1 - 1) ≤ (2 : ℚ) ^ l := by
  have htable : ((List.range 2098).all fun i =>
      let l : ℤ := i - 1074
      let f := fraction 1 l
      let g := Decimal.inTens f.1 f.2 ((l * 30103).fdiv 100000 - 1 - 1)
      decide (¬ g.1 < g.2)) = true := by
    decide +kernel
  have hmem : (l + 1074).toNat ∈ List.range 2098 := by
    rw [List.mem_range]
    omega
  have hrow := List.all_eq_true.mp htable _ hmem
  have hl : (((l + 1074).toNat : ℤ) - 1074) = l := by omega
  dsimp only at hrow
  rw [hl, decide_eq_true_iff, ((denotes_fraction 1 l).inTens _).lt_one_iff,
    div_lt_one (by positivity), not_lt, Nat.cast_one, one_mul] at hrow
  exact hrow

/-- A number of some digits is not less than the power of ten before it. -/
theorem ten_zpow_magnitude_le (hm : 0 < m) (hlow : -1074 ≤ (m.log2 : ℤ) + e)
    (hhigh : (m.log2 : ℤ) + e < 1024) : (10 : ℚ) ^ (magnitude m e - 1) ≤ m * 2 ^ e := by
  refine (denotes_fraction m e).le_of_climb 4 ((tens_le_two_zpow hlow hhigh).trans ?_)
  rw [zpow_add₀ two_ne_zero, zpow_natCast]
  have hlog : (2 : ℚ) ^ m.log2 ≤ m := by exact_mod_cast Nat.log2_self_le hm.ne'
  gcongr

/-- A search that finds nothing falls back on its last grid. -/
theorem search_cases (m : ℕ) (e : ℤ) (grids : ℕ) (place : ℤ) :
    readsBack m e (search m e grids place) = true ∨
      search m e grids place = onGrid m e (place - grids) := by
  induction grids generalizing place with
  | zero => simp [search]
  | succ grids ih =>
    unfold search
    split
    · rename_i d hd
      exact .inl (List.find?_some hd)
    · have hlast : place - (grids + 1 : ℕ) = place - 1 - grids := by omega
      rw [hlast]
      exact ih (place - 1)

end Grids

section Doubles

variable {k : ℕ} {d : Scientific}

theorem mantissaAt_pos (hk : 0 < k) : 0 < mantissaAt k := by
  unfold mantissaAt stepsAt
  omega

theorem denotes_lowEnd (hk : 0 < k) :
    Denotes (fraction (if mantissaAt k = Nat.pow 2 52 ∧ exponentAt k ≠ -1074
      then 4 * mantissaAt k - 1 else 4 * mantissaAt k - 2) (exponentAt k - 2)) (lowEnd k) := by
  have hpos := mantissaAt_pos hk
  have hpow : Nat.pow 2 52 = 2 ^ 52 := rfl
  obtain ⟨below, hbelow⟩ : ∃ below : ℕ, belowAt k = below :=
    Int.eq_ofNat_of_zero_le (by unfold belowAt; split <;> omega)
  have hnat : (if mantissaAt k = Nat.pow 2 52 ∧ exponentAt k ≠ -1074
      then 4 * mantissaAt k - 1 else 4 * mantissaAt k - 2) = below := by
    unfold belowAt at hbelow
    rw [hpow]
    split at hbelow <;> split <;> omega
  rw [hnat, lowEnd, hbelow, Int.cast_natCast]
  exact denotes_fraction below _

theorem denotes_highEnd (k : ℕ) :
    Denotes (fraction (4 * mantissaAt k + 2) (exponentAt k - 2)) (highEnd k) := by
  have h := denotes_fraction (4 * mantissaAt k + 2) (exponentAt k - 2)
  push_cast at h
  exact h

/-- A decimal reads back as a double when it belongs to it. -/
theorem readsBack_eq_true_iff (hk : 0 < k) :
    readsBack (mantissaAt k) (exponentAt k) d = true ↔ BelongsTo d.value k :=
  ((denotes_lowEnd hk).within_iff (denotes_scaled (b := 10) (by norm_num) d.digits d.exponent)
    (denotes_highEnd k)).trans belongsTo_iff.symm

/-- A double reaches further than its value divided by 2 * 10 ^ 16. -/
theorem belongsTo_of_abs_sub_le {q : ℚ}
    (h : |q - valueAt k| ≤ valueAt k / 10 ^ 16 / 2) : BelongsTo q k := by
  have hunit : (0 : ℚ) < 2 ^ (exponentAt k - 2) := by positivity
  have hvalue : valueAt k = 4 * mantissaAt k * 2 ^ (exponentAt k - 2) := by
    rw [valueAt, zpow_sub₀ two_ne_zero]
    ring
  have hmantissa : (mantissaAt k : ℚ) < 2 ^ 53 := by exact_mod_cast mantissaAt_lt k
  have hbelow : (belowAt k : ℚ) < 4 * mantissaAt k - 4 * mantissaAt k / 10 ^ 16 / 2 := by
    unfold belowAt
    split
    · rename_i hpower
      rw [hpower.1]
      norm_num
    · push_cast
      linarith
  rw [hvalue, abs_le] at h
  have hlow : lowEnd k < q := by
    unfold lowEnd
    nlinarith [mul_lt_mul_of_pos_right hbelow hunit]
  have hhigh : q < highEnd k := by
    unfold highEnd
    nlinarith [mul_lt_mul_of_pos_right hmantissa hunit]
  exact ⟨hlow.le, hhigh.le, fun _ => ⟨hlow, hhigh⟩⟩

theorem log2_mantissaAt_add_exponentAt (hk : 0 < k) (hfinite : k < 2047 * 2 ^ 52) :
    -1074 ≤ ((mantissaAt k).log2 : ℤ) + exponentAt k ∧
      ((mantissaAt k).log2 : ℤ) + exponentAt k < 1024 := by
  have hlog : (mantissaAt k).log2 < 53 :=
    (Nat.log2_lt (mantissaAt_pos hk).ne').mpr (mantissaAt_lt k)
  unfold exponentAt stepsAt
  omega

/-- The shortest decimal of a double belongs to it. -/
theorem belongsTo_shortest (hk : k < 2047 * 2 ^ 52) :
    BelongsTo (shortest (mantissaAt k) (exponentAt k)).value k := by
  obtain rfl | hpos := k.eq_zero_or_pos
  · have hzero : (shortest (mantissaAt 0) (exponentAt 0)).value = 0 := by
      simp [shortest, mantissaAt, stepsAt, Scientific.value]
    rw [hzero]
    refine ⟨?_, ?_, fun hodd => absurd hodd (by decide)⟩ <;>
      norm_num [lowEnd, highEnd, belowAt, mantissaAt, stepsAt, exponentAt]
  · rw [shortest, if_neg (mantissaAt_pos hpos).ne']
    obtain hfound | hlast := search_cases (mantissaAt k) (exponentAt k) 16 _
    · exact (readsBack_eq_true_iff hpos).mp hfound
    · rw [hlast]
      refine belongsTo_of_abs_sub_le ((abs_onGrid_sub_le _ _ _).trans ?_)
      obtain ⟨hlow, hhigh⟩ := log2_mantissaAt_add_exponentAt hpos hk
      have hmagnitude := ten_zpow_magnitude_le (mantissaAt_pos hpos) hlow hhigh
      rw [zpow_sub₀ (by norm_num), Nat.cast_ofNat, zpow_ofNat]
      unfold valueAt
      gcongr

end Doubles

end ClusterLaunch.Decimal
