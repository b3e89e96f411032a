import ClusterLaunch.Text.Lowercase
import Mathlib

/-! # ASCII letters in lowercase text

A capital ASCII letter and its small letter have the same lowercase form, and both are letters for a
sigma beside them. So the lowercase form of a text does not depend on the case of its ASCII
letters.
-/

namespace ClusterLaunch.Text

theorem exists_of_isUpper {c : Char} (h : c.isUpper = true) :
    ∃ n < 26, c = Char.ofNat (0x41 + n) ∧ c.toLower = Char.ofNat (0x61 + n) := by
  have hrange : 0x41 ≤ c.toNat ∧ c.toNat ≤ 0x5a := by
    simpa [Char.isUpper, UInt32.le_iff_toNat_le] using h
  have hsum : 0x41 + (c.toNat - 0x41) = c.toNat := by omega
  refine ⟨c.toNat - 0x41, by omega, ?_, ?_⟩
  · rw [hsum, Char.ofNat_toNat]
  · rw [Char.toLower_eq_of_isUpper h]
    exact congrArg Char.ofNat (by omega)

/-- What is the same for a capital ASCII letter and its small letter ignores ASCII case. -/
theorem apply_toLower {β : Type} (f : Char → β)
    (h : ∀ n < 26, f (Char.ofNat (0x61 + n)) = f (Char.ofNat (0x41 + n))) (c : Char) :
    f c.toLower = f c := by
  by_cases hc : c.isUpper = true
  · obtain ⟨n, hn, hupper, hlower⟩ := exists_of_isUpper hc
    rw [hlower, hupper]
    exact h n hn
  · rw [Char.toLower_eq_of_not_isUpper hc]

theorem lowerChar_toLower (c : Char) : lowerChar c.toLower = lowerChar c :=
  apply_toLower lowerChar (by decide +kernel) c

theorem isSigma_toLower (c : Char) : c.toLower = 'Σ' ↔ c = 'Σ' :=
  iff_of_eq (apply_toLower (· = 'Σ') (by decide +kernel) c)

theorem casedLetters_toLower (c : Char) :
    casedLetters.contains c.toLower.toNat = casedLetters.contains c.toNat :=
  apply_toLower (fun c => casedLetters.contains c.toNat) (by decide +kernel) c

theorem caseIgnorable_toLower (c : Char) :
    caseIgnorable.contains c.toLower.toNat = caseIgnorable.contains c.toNat :=
  apply_toLower (fun c => caseIgnorable.contains c.toNat) (by decide +kernel) c

theorem meetsLetter_map_toLower (s : List Char) :
    meetsLetter (s.map Char.toLower) = meetsLetter s := by
  induction s with
  | nil => rfl
  | cons c s ih =>
    unfold meetsLetter at ih ⊢
    rw [List.map_cons, List.dropWhile_cons, List.dropWhile_cons, caseIgnorable_toLower]
    by_cases h : caseIgnorable.contains c.toNat = true
    · rw [if_pos h, if_pos h]
      exact ih
    · rw [if_neg h, if_neg h]
      exact casedLetters_toLower c

theorem lowerAfter_map_toLower (before s : List Char) :
    lowerAfter (before.map Char.toLower) (s.map Char.toLower) = lowerAfter before s := by
  induction s generalizing before with
  | nil => rfl
  | cons c s ih =>
    rw [List.map_cons, lowerAfter, lowerAfter, meetsLetter_map_toLower, meetsLetter_map_toLower,
      lowerChar_toLower, ← List.map_cons, ih]
    simp only [isSigma_toLower]

/-- The lowercase form of a text ignores the case of its ASCII letters. -/
theorem lower_map_toLower (s : List Char) : lower (s.map Char.toLower) = lower s :=
  lowerAfter_map_toLower [] s

end ClusterLaunch.Text
