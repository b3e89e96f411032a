import ClusterLaunch.Text.Basic
import Mathlib.Data.List.DropRight

/-! # Pieces of a text

Fields are what the separators leave between them, and joined by separators they give the text
again. Stripping leaves a text that had nothing but blanks around it.
-/

namespace ClusterLaunch.Text

theorem fields_eq_splitOn (sep : Char) (s : List Char) : fields sep s = s.splitOn sep := by
  induction s with
  | nil => simp [fields]
  | cons c rest ih =>
    rw [List.splitOn_cons_eq_if_modifyHead, ← ih, fields]
    by_cases hc : c = sep
    · simp [hc]
    · obtain ⟨field, more, hfields⟩ := List.exists_cons_of_ne_nil (fields_ne_nil sep rest)
      simp [hc, hfields]

/-- Texts without separators are the fields of what separators join them to. -/
theorem fields_eq_iff {sep : Char} {s : List Char} {ps : List (List Char)} (hne : ps ≠ [])
    (hsep : ∀ p ∈ ps, sep ∉ p) : fields sep s = ps ↔ s = [sep].intercalate ps := by
  rw [fields_eq_splitOn]
  constructor
  · rintro rfl
    exact (List.intercalate_splitOn sep).symm
  · rintro rfl
    exact List.splitOn_intercalate sep hsep hne

/-- A text stands in another one with nothing but blanks around it. -/
def Padded (s t : List Char) : Prop :=
  ∃ l r, t = l ++ s ++ r ∧ (∀ c ∈ l, isBlank c = true) ∧ ∀ c ∈ r, isBlank c = true

theorem padded_self (s : List Char) : Padded s s :=
  ⟨[], [], (List.append_nil s).symm, nofun, nofun⟩

theorem padded_strip (t : List Char) : Padded (strip t) t := by
  refine ⟨t.takeWhile isBlank, (t.dropWhile isBlank).rtakeWhile isBlank, ?_,
    fun c => List.mem_takeWhile_imp, fun c => List.mem_rtakeWhile_imp⟩
  have hright : strip t ++ (t.dropWhile isBlank).rtakeWhile isBlank = t.dropWhile isBlank :=
    List.rdropWhile_append_rtakeWhile
  rw [List.append_assoc, hright, List.takeWhile_append_dropWhile]

theorem Padded.count_eq {s t : List Char} {c : Char} (h : Padded s t) (hc : isBlank c = false) :
    t.count c = s.count c := by
  obtain ⟨l, r, rfl, hl, hr⟩ := h
  have hl' : c ∉ l := fun hmem => by simp [hl c hmem] at hc
  have hr' : c ∉ r := fun hmem => by simp [hr c hmem] at hc
  rw [List.count_append, List.count_append, List.count_eq_zero_of_not_mem hl',
    List.count_eq_zero_of_not_mem hr', Nat.zero_add, Nat.add_zero]

theorem Padded.mem_iff {s t : List Char} {c : Char} (h : Padded s t) (hc : isBlank c = false) :
    c ∈ t ↔ c ∈ s := by
  rw [← List.count_pos_iff, h.count_eq hc, List.count_pos_iff]

theorem dropWhile_append_of_head {p : Char → Bool} {r s : List Char} (hr : ∀ c ∈ r, p c = true)
    (hs : ∀ c ∈ s.head?, p c = false) : (r ++ s).dropWhile p = s := by
  rw [List.dropWhile_append_of_pos hr]
  cases s with
  | nil => rfl
  | cons c s => exact List.dropWhile_cons_of_neg (by simp [hs c rfl])

/-- A text without blanks is what stripping leaves exactly where it has only blanks around it. -/
theorem strip_eq_iff {s t : List Char} (hs : ∀ c ∈ s, isBlank c = false) :
    strip t = s ↔ Padded s t := by
  constructor
  · rintro rfl
    exact padded_strip t
  · rintro ⟨l, r, rfl, hl, hr⟩
    rw [strip, stripWhile]
    cases s with
    | nil =>
      have hall : ∀ c ∈ l ++ [] ++ r, isBlank c = true := by
        simpa [or_imp, forall_and] using ⟨hl, hr⟩
      rw [List.dropWhile_eq_nil_iff.mpr hall]
      rfl
    | cons c s =>
      have hright : ∀ d ∈ (c :: s).reverse.head?, isBlank d = false :=
        fun d hd => hs d (List.mem_reverse.mp (List.mem_of_mem_head? hd))
      rw [List.append_assoc, dropWhile_append_of_head hl (by simpa using hs c (.head s)),
        List.reverse_append, dropWhile_append_of_head (by simpa using hr) hright,
        List.reverse_reverse]

end ClusterLaunch.Text
