import ClusterLaunch.Text.Basic
import Mathlib

/-! # Digits in a text

Digits that do not go on can be told from what follows them. So a text that begins with an integer
is marked by the first character after it.
-/

namespace ClusterLaunch.Decimal

open Text (number)

def Digits (ds : List Char) : Prop := ∀ c ∈ ds, c.isDigit = true

/-- A text that does not go on with a digit. -/
def Ended (s : List Char) : Prop := s.takeWhile Char.isDigit = []

variable {ds ds' s s' : List Char} {c : Char}

section Numbers

theorem digits_toDigits (n : ℕ) : Digits (Nat.toDigits 10 n) := fun _ hc =>
  Nat.isDigit_of_mem_toDigits (by decide) (by decide) hc

theorem digits_zeros (n : ℕ) : Digits (List.replicate n '0') := fun c hc => by
  rw [List.eq_of_mem_replicate hc]
  rfl

theorem digits_append : Digits (s ++ s') ↔ Digits s ∧ Digits s' := List.forall_mem_append

theorem number_append (s t : List Char) :
    number (s ++ t) = number s * 10 ^ t.length + number t := by
  simp only [number, ← Nat.ofDigitChars_eq_foldl (b := 10)]
  rw [Nat.ofDigitChars_append, Nat.ofDigitChars_eq_ofDigitChars_zero, mul_comm]

theorem number_zeros (n : ℕ) : number (List.replicate n '0') = 0 := by
  induction n with
  | zero => rfl
  | succ n ih =>
    rw [List.replicate_succ, ← List.singleton_append, number_append, ih]
    exact Nat.zero_mul _

theorem number_zeros_append (n : ℕ) (ds : List Char) :
    number (List.replicate n '0' ++ ds) = number ds := by
  rw [number_append, number_zeros, Nat.zero_mul, Nat.zero_add]

theorem number_toDigits (n : ℕ) : number (Nat.toDigits 10 n) = n :=
  Nat.ofDigitChars_eq_foldl.symm.trans Nat.ofDigitChars_ten_toDigits

end Numbers

section Ends

theorem ended_nil : Ended [] := rfl

theorem ended_cons (h : c.isDigit = false) : Ended (c :: s) := by
  rw [Ended, List.takeWhile_cons, if_neg (Bool.eq_false_iff.mp h)]

theorem takeWhile_append (hds : Digits ds) (hs : Ended s) :
    (ds ++ s).takeWhile Char.isDigit = ds := by
  rw [List.takeWhile_append_of_pos hds, hs, List.append_nil]

theorem dropWhile_append (hds : Digits ds) (hs : Ended s) :
    (ds ++ s).dropWhile Char.isDigit = s := by
  have hsplit := s.takeWhile_append_dropWhile (p := Char.isDigit)
  rw [hs, List.nil_append] at hsplit
  rw [List.dropWhile_append_of_pos hds, hsplit]

theorem digits_append_inj (hds : Digits ds) (hds' : Digits ds') (hs : Ended s) (hs' : Ended s')
    (h : ds ++ s = ds' ++ s') : ds = ds' ∧ s = s' :=
  ⟨by rw [← takeWhile_append hds hs, h, takeWhile_append hds' hs'],
    by rw [← dropWhile_append hds hs, h, dropWhile_append hds' hs']⟩

end Ends

section Signs

theorem head?_append_ne (hds : Digits ds) (hne : ds ≠ []) (s : List Char) :
    (ds ++ s).head? ≠ some '-' := by
  obtain ⟨d, ds, rfl⟩ := List.exists_cons_of_ne_nil hne
  rw [List.cons_append, List.head?_cons, Ne, Option.some_inj]
  rintro rfl
  exact absurd (hds _ List.mem_cons_self) (by decide)

theorem sign_append_inj {p q : Bool} (hs : s.head? ≠ some '-') (hs' : s'.head? ≠ some '-')
    (h : (if p then ['-'] else []) ++ s = (if q then ['-'] else []) ++ s') : p = q ∧ s = s' := by
  cases p <;> cases q
  · exact ⟨rfl, h⟩
  · exact absurd (congrArg List.head? h) hs
  · exact absurd (congrArg List.head? h.symm) hs'
  · exact ⟨rfl, (List.cons.inj h).2⟩

end Signs

section Marks

/-- The first character of a text that does not belong to an integer at its beginning. -/
def mark (s : List Char) : Option Char := ((s.dropWhile (· == '-')).dropWhile Char.isDigit).head?

theorem mark_sign_append (negative : Bool) (s : List Char) :
    mark ((if negative then ['-'] else []) ++ s) = mark s := by
  cases negative <;> rfl

theorem mark_append (hds : Digits ds) (hne : ds ≠ []) (hs : Ended s) : mark (ds ++ s) = s.head? := by
  have hsign : (ds ++ s).dropWhile (· == '-') = ds ++ s := by
    have hhead := head?_append_ne hds hne s
    cases h : ds ++ s with
    | nil => rfl
    | cons d t =>
      rw [h, List.head?_cons, Ne, Option.some_inj] at hhead
      rw [List.dropWhile_cons, if_neg fun hd => hhead (beq_iff_eq.mp hd)]
  rw [mark, hsign, dropWhile_append hds hs]

theorem mark_append_cons (hds : Digits ds) (hne : ds ≠ []) (hc : c.isDigit = false) :
    mark (ds ++ c :: s) = some c := by
  rw [mark_append hds hne (ended_cons hc), List.head?_cons]

theorem mark_digits (hds : Digits ds) (hne : ds ≠ []) : mark ds = none := by
  rw [← List.append_nil ds, mark_append hds hne ended_nil, List.head?_nil]

end Marks

end ClusterLaunch.Decimal
