import ClusterLaunch.Proofs.Decimal.Digits
import ClusterLaunch.Value.Calendar

/-! # The text of dates and moments

The numbers in the text of a date are separated by dashes, those of a time by other characters, so
each can be read off. No two dates or moments have the same text.
-/

namespace ClusterLaunch

open Decimal

section Padded

variable {width n n' : ℕ} {s s' : List Char}

theorem digits_padded (width n : ℕ) : Digits (padded width n).toList := by
  rw [padded, String.toList_ofList]
  exact digits_append.mpr ⟨digits_zeros _, digits_toDigits n⟩

theorem padded_ne_nil (width n : ℕ) : (padded width n).toList ≠ [] := by
  rw [padded, String.toList_ofList]
  exact List.append_ne_nil_of_right_ne_nil _ Nat.toDigits_ne_nil

theorem number_padded (width n : ℕ) : Text.number (padded width n).toList = n := by
  rw [padded, String.toList_ofList, number_zeros_append, number_toDigits]

theorem padded_inj (h : (padded width n).toList = (padded width n').toList) : n = n' := by
  rw [← number_padded width n, h, number_padded]

theorem padded_append_inj (hs : Ended s) (hs' : Ended s')
    (h : (padded width n).toList ++ s = (padded width n').toList ++ s') : n = n' ∧ s = s' := by
  obtain ⟨hdigits, hrest⟩ := digits_append_inj (digits_padded _ _) (digits_padded _ _) hs hs' h
  exact ⟨padded_inj hdigits, hrest⟩

end Padded

namespace Date

variable {d d' : Date} {s s' : List Char}

theorem toList_text (d : Date) : d.text.toList = (padded 4 d.year).toList ++
    '-' :: ((padded 2 d.month).toList ++ '-' :: (padded 2 d.day).toList) := by
  simp [text]

theorem text_append_inj (hs : Ended s) (hs' : Ended s')
    (h : d.text.toList ++ s = d'.text.toList ++ s') : d = d' ∧ s = s' := by
  simp only [toList_text, List.append_assoc, List.cons_append] at h
  obtain ⟨hyear, h⟩ := padded_append_inj (ended_cons rfl) (ended_cons rfl) h
  obtain ⟨hmonth, h⟩ := padded_append_inj (ended_cons rfl) (ended_cons rfl) (List.cons.inj h).2
  obtain ⟨hday, hrest⟩ := padded_append_inj hs hs' (List.cons.inj h).2
  cases d
  cases d'
  rw [mk.injEq]
  exact ⟨⟨hyear, hmonth, hday⟩, hrest⟩

theorem text_injective : Function.Injective text := by
  intro d d' h
  have h := congrArg (·.toList ++ []) h
  exact (text_append_inj ended_nil ended_nil h).1

theorem mark_text_append (d : Date) (s : List Char) : mark (d.text.toList ++ s) = some '-' := by
  rw [toList_text, List.append_assoc, List.cons_append]
  exact mark_append_cons (digits_padded _ _) (padded_ne_nil _ _) rfl

end Date

namespace Moment

/-- The fraction of a second, left out if it is zero. -/
def fractionText (micro : ℕ) : List Char :=
  if micro = 0 then [] else '.' :: (padded 6 micro).toList

/-- The offset of a moment, left out if it is not known. -/
def zoneText : Option ℤ → List Char
  | some minutes => (offsetText minutes).toList
  | none => []

theorem toList_text (m : Moment) : m.text.toList = m.date.text.toList ++ ' ' ::
    ((padded 2 m.hour).toList ++ ':' :: ((padded 2 m.minute).toList ++ ':' ::
      ((padded 2 m.second).toList ++ (fractionText m.micro ++ zoneText m.offset)))) := by
  have hfraction : (if m.micro = 0 then "" else "." ++ padded 6 m.micro).toList =
      fractionText m.micro := by
    unfold fractionText
    split <;> simp
  cases hoffset : m.offset <;> simp [text, zoneText, hfraction, hoffset]

theorem toList_offsetText (minutes : ℤ) : (offsetText minutes).toList =
    (if minutes < 0 then '-' else '+') :: ((padded 2 (minutes.natAbs / 60)).toList ++
      ':' :: (padded 2 (minutes.natAbs % 60)).toList) := by
  unfold offsetText
  split <;> simp

theorem offsetText_injective : Function.Injective offsetText := by
  intro a b h
  have h := congrArg String.toList h
  rw [toList_offsetText, toList_offsetText] at h
  obtain ⟨hsign, h⟩ := List.cons.inj h
  obtain ⟨hhours, h⟩ := padded_append_inj (ended_cons rfl) (ended_cons rfl) h
  have hminutes := padded_inj (List.cons.inj h).2
  split at hsign <;> split at hsign
  · omega
  · cases hsign
  · cases hsign
  · omega

/-- A zone begins with a sign if it is written. -/
theorem zoneText_eq (offset : Option ℤ) : zoneText offset = [] ∨
    ∃ s, zoneText offset = '-' :: s ∨ zoneText offset = '+' :: s := by
  cases offset with
  | none => exact .inl rfl
  | some minutes =>
    rw [zoneText, toList_offsetText]
    right
    split
    · exact ⟨_, .inl rfl⟩
    · exact ⟨_, .inr rfl⟩

theorem ended_zoneText (offset : Option ℤ) : Ended (zoneText offset) := by
  obtain h | ⟨s, h | h⟩ := zoneText_eq offset <;> rw [h]
  · exact ended_nil
  · exact ended_cons rfl
  · exact ended_cons rfl

theorem zoneText_ne (offset : Option ℤ) (s : List Char) : zoneText offset ≠ '.' :: s := by
  obtain h | ⟨t, h | h⟩ := zoneText_eq offset <;> rw [h] <;> simp

theorem zoneText_injective : Function.Injective zoneText := by
  intro a b h
  cases a with
  | none =>
    cases b with
    | none => rfl
    | some minutes =>
      rw [zoneText, zoneText, toList_offsetText] at h
      cases h
  | some minutes =>
    cases b with
    | none =>
      rw [zoneText, zoneText, toList_offsetText] at h
      cases h
    | some minutes' => rw [offsetText_injective (String.toList_injective h)]

theorem ended_fractionText_append (n : ℕ) (offset : Option ℤ) :
    Ended (fractionText n ++ zoneText offset) := by
  unfold fractionText
  split
  · exact ended_zoneText offset
  · exact ended_cons rfl

theorem fractionText_append_inj {n n' : ℕ} {offset offset' : Option ℤ}
    (h : fractionText n ++ zoneText offset = fractionText n' ++ zoneText offset') :
    n = n' ∧ offset = offset' := by
  unfold fractionText at h
  split at h <;> split at h
  · exact ⟨by omega, zoneText_injective h⟩
  · exact absurd h (zoneText_ne _ _)
  · exact absurd h.symm (zoneText_ne _ _)
  · obtain ⟨hn, hzone⟩ :=
      padded_append_inj (ended_zoneText _) (ended_zoneText _) (List.cons.inj h).2
    exact ⟨hn, zoneText_injective hzone⟩

theorem text_injective : Function.Injective text := by
  intro m m' h
  have h := congrArg String.toList h
  rw [toList_text, toList_text] at h
  obtain ⟨hdate, h⟩ := Date.text_append_inj (ended_cons rfl) (ended_cons rfl) h
  obtain ⟨hhour, h⟩ := padded_append_inj (ended_cons rfl) (ended_cons rfl) (List.cons.inj h).2
  obtain ⟨hminute, h⟩ := padded_append_inj (ended_cons rfl) (ended_cons rfl) (List.cons.inj h).2
  obtain ⟨hsecond, h⟩ := padded_append_inj (ended_fractionText_append _ _)
    (ended_fractionText_append _ _) (List.cons.inj h).2
  obtain ⟨hmicro, hoffset⟩ := fractionText_append_inj h
  cases m
  cases m'
  rw [mk.injEq]
  exact ⟨hdate, hhour, hminute, hsecond, hmicro, hoffset⟩

theorem text_ne (m : Moment) (d : Date) : m.text ≠ d.text := by
  intro h
  have h := congrArg String.toList h
  rw [toList_text, ← List.append_nil d.text.toList] at h
  exact List.cons_ne_nil _ _ (Date.text_append_inj (ended_cons rfl) ended_nil h).2

end Moment

end ClusterLaunch
