import ClusterLaunch.Decimal.Binary
import Mathlib

/-! # The reals nearest to a double

The nonnegative finite doubles stand in a row, and the intervals of the reals that are nearest to
them cover the line. Neighbours share an end, but of their mantissas one is odd and leaves it to the
other. So no real belongs to two doubles.
-/

namespace ClusterLaunch.Decimal

/-- How many times the exponent has gone up before the double with number `k`. -/
def stepsAt (k : ℕ) : ℕ := k / 2 ^ 52 - 1

def mantissaAt (k : ℕ) : ℕ := k - 2 ^ 52 * stepsAt k

def exponentAt (k : ℕ) : ℤ := stepsAt k - 1074

/-- Four times the place below which a real is nearer to the double before, in units of the last
place. Below a power of two the doubles are twice as dense. -/
def belowAt (k : ℕ) : ℤ :=
  4 * mantissaAt k - if mantissaAt k = 2 ^ 52 ∧ exponentAt k ≠ -1074 then 1 else 2

/-- The lower end of the interval of a double. -/
def lowEnd (k : ℕ) : ℚ := belowAt k * 2 ^ (exponentAt k - 2)

/-- The upper end of the interval of a double. -/
def highEnd (k : ℕ) : ℚ := (4 * mantissaAt k + 2) * 2 ^ (exponentAt k - 2)

/-- A real belongs to a double. The ends of its interval do if its mantissa is even. -/
structure BelongsTo (q : ℚ) (k : ℕ) : Prop where
  low : lowEnd k ≤ q
  high : q ≤ highEnd k
  inside : mantissaAt k % 2 = 1 → lowEnd k < q ∧ q < highEnd k

theorem belongsTo_iff {q : ℚ} {k : ℕ} : BelongsTo q k ↔
    if mantissaAt k % 2 = 0 then lowEnd k ≤ q ∧ q ≤ highEnd k else lowEnd k < q ∧ q < highEnd k := by
  split
  · rename_i heven
    exact ⟨fun h => ⟨h.low, h.high⟩, fun h => ⟨h.1, h.2, fun hodd => by omega⟩⟩
  · rename_i hodd
    exact ⟨fun h => h.inside (by omega), fun h => ⟨h.1.le, h.2.le, fun _ => h⟩⟩

theorem mantissaAt_lt (k : ℕ) : mantissaAt k < 2 ^ 53 := by
  unfold mantissaAt stepsAt
  omega

theorem mantissaAt_mod_two (k : ℕ) : mantissaAt k % 2 = k % 2 := by
  unfold mantissaAt stepsAt
  omega

theorem belowAt_lt (k : ℕ) : (belowAt k : ℚ) < 4 * mantissaAt k + 2 := by
  have hlt : belowAt k < 4 * mantissaAt k + 2 := by
    unfold belowAt
    split <;> omega
  exact_mod_cast hlt

theorem lowEnd_lt_highEnd (k : ℕ) : lowEnd k < highEnd k := by
  unfold lowEnd highEnd
  gcongr
  exact belowAt_lt k

/-- The interval of a double ends where that of the next one begins. -/
theorem lowEnd_succ (k : ℕ) : lowEnd (k + 1) = highEnd k := by
  unfold lowEnd highEnd
  by_cases hstep : stepsAt (k + 1) = stepsAt k
  · have hexponent : exponentAt (k + 1) = exponentAt k := by rw [exponentAt, exponentAt, hstep]
    have hbelow : belowAt (k + 1) = 4 * mantissaAt k + 2 := by
      unfold belowAt exponentAt mantissaAt
      rw [hstep]
      unfold stepsAt at hstep ⊢
      split <;> omega
    rw [hexponent, hbelow]
    push_cast
    rfl
  · -- the mantissa has run full
    have hsteps : stepsAt (k + 1) = stepsAt k + 1 := by
      unfold stepsAt at hstep ⊢
      omega
    have hexponent : exponentAt (k + 1) - 2 = exponentAt k - 2 + 1 := by
      unfold exponentAt
      omega
    have hmantissa : mantissaAt k = 2 ^ 53 - 1 := by
      unfold mantissaAt
      unfold stepsAt at hstep ⊢
      omega
    have hbelow : belowAt (k + 1) = 2 ^ 54 - 1 := by
      unfold belowAt exponentAt mantissaAt
      unfold mantissaAt at hmantissa
      split <;> omega
    rw [hexponent, hbelow, hmantissa, zpow_add_one₀ two_ne_zero]
    push_cast
    ring

theorem strictMono_lowEnd : StrictMono lowEnd :=
  strictMono_nat_of_lt_succ fun k => (lowEnd_lt_highEnd k).trans_eq (lowEnd_succ k).symm

/-- A real belongs to one double only. -/
theorem BelongsTo.unique {q : ℚ} {j k : ℕ} (hj : BelongsTo q j) (hk : BelongsTo q k) : j = k := by
  wlog hlt : j < k generalizing j k
  · obtain heq | hgt := (Nat.le_of_not_lt hlt).eq_or_lt
    · exact heq.symm
    · exact (this hk hj hgt).symm
  have hnext : lowEnd (j + 1) ≤ lowEnd k := strictMono_lowEnd.monotone hlt
  rw [lowEnd_succ] at hnext
  have hqj : q = highEnd j := le_antisymm hj.high (hnext.trans hk.low)
  have hqk : q = lowEnd k := le_antisymm (hj.high.trans hnext) hk.low
  have hsucc : j + 1 = k := strictMono_lowEnd.injective (by rw [lowEnd_succ, ← hqj, hqk])
  have hodd : mantissaAt j % 2 = 1 ∨ mantissaAt k % 2 = 1 := by
    rw [mantissaAt_mod_two, mantissaAt_mod_two]
    omega
  rcases hodd with hodd | hodd
  · exact absurd hqj (hj.inside hodd).2.ne
  · exact absurd hqk (hk.inside hodd).1.ne'

end ClusterLaunch.Decimal
