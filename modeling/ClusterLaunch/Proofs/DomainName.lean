import ClusterLaunch.Preflight.HostedZone
import ClusterLaunch.Proofs.Text.LowerForm

/-! # Canonical names

The canonical form of a name is its own canonical form, and it does not depend on letter case or on
the dot at the end. Names of ASCII characters have the same one only if they differ in no more
than that.
-/

namespace ClusterLaunch.DomainName

def bare (name : List Char) : List Char :=
  if name.getLast? = some '.' then name.dropLast else name

/-- Two names are both empty, or neither is and they differ at most in the case of ASCII letters and
in a dot at the end. -/
def Alike (a b : String) : Prop :=
  (a = "" ↔ b = "") ∧ (bare a.toList).map Char.toLower = (bare b.toList).map Char.toLower

instance (a b : String) : Decidable (Alike a b) := inferInstanceAs (Decidable (_ ∧ _))

theorem qualified_eq_bare {name : List Char} (h : name ≠ []) :
    qualified name = bare name ++ ['.'] := by
  unfold qualified bare
  by_cases hdot : name.getLast? = some '.'
  · rw [if_pos (.inr hdot), if_pos hdot]
    exact (List.dropLast_append_getLast? '.' hdot).symm
  · rw [if_neg (by simp [h, hdot]), if_neg hdot]

theorem Alike.canon_eq {a b : String} (h : Alike a b) : canon a = canon b := by
  obtain ⟨hempty, hbare⟩ := h
  by_cases ha : a = ""
  · rw [ha, hempty.mp ha]
  have hqualified : (qualified a.toList).map Char.toLower =
      (qualified b.toList).map Char.toLower := by
    have hb : b ≠ "" := mt hempty.mpr ha
    rw [qualified_eq_bare (by simpa using ha), qualified_eq_bare (by simpa using hb),
      List.map_append, List.map_append, hbare]
  rw [canon, canonical, ← Text.lower_map_toLower, hqualified, Text.lower_map_toLower]
  rfl

section Canonical

variable {name : List Char}

theorem qualified_lower (name : List Char) :
    qualified (Text.lower name) = Text.lower (qualified name) := by
  unfold qualified
  simp only [Text.lower_eq_nil_iff, Text.getLast?_lower_eq_dot_iff]
  split
  · rfl
  · exact (Text.lower_append_dot name).symm

theorem canonical_lower (name : List Char) : canonical (Text.lower name) = canonical name := by
  rw [canonical, qualified_lower, Text.lower_lower, canonical]

theorem canonical_canonical (name : List Char) :
    canonical (canonical name) = canonical name := calc
  canonical (canonical name) = canonical (qualified name) := canonical_lower _
  _ = canonical name := by rw [canonical, qualified_qualified, canonical]

theorem canonical_eq_nil_iff : canonical name = [] ↔ name = [] := by
  rw [canonical, Text.lower_eq_nil_iff, qualified_eq_nil_iff]

theorem getLast?_canonical (h : name ≠ []) : (canonical name).getLast? = some '.' :=
  Text.getLast?_lower_eq_dot_iff.mpr (getLast?_qualified h)

theorem canonical_append_dot (h : name.getLast? ≠ some '.') (hne : name ≠ []) :
    canonical (name ++ ['.']) = canonical name := by
  have hname : qualified name = name ++ ['.'] := if_neg (by simp [h, hne])
  rw [canonical, canonical, ← hname, qualified_qualified]

theorem canonical_of_ascii (h : ∀ c ∈ name, c.toNat < 128) :
    canonical name = (qualified name).map Char.toLower := by
  refine Text.lower_of_ascii fun c hc => ?_
  unfold qualified at hc
  split at hc
  · exact h c hc
  · obtain hc | rfl := by simpa using hc
    · exact h c hc
    · decide

end Canonical

def IsAscii (name : String) : Prop := ∀ c ∈ name.toList, c.toNat < 128

instance (name : String) : Decidable (IsAscii name) :=
  decidable_of_iff (name.toList.all fun c => c.toNat < 128) (by simp [IsAscii])

theorem canon_eq_iff {a b : String} : canon a = canon b ↔ canonical a.toList = canonical b.toList :=
  String.ofList_inj

theorem alike_of_canon_eq {a b : String} (ha : IsAscii a) (hb : IsAscii b)
    (h : canon a = canon b) : Alike a b := by
  rw [canon_eq_iff] at h
  have hempty : a = "" ↔ b = "" := by
    rw [← String.toList_eq_nil_iff, ← canonical_eq_nil_iff, h, canonical_eq_nil_iff,
      String.toList_eq_nil_iff]
  refine ⟨hempty, ?_⟩
  by_cases hzero : a = ""
  · rw [hzero, hempty.mp hzero]
  have hbzero : b ≠ "" := mt hempty.mpr hzero
  rw [canonical_of_ascii ha, canonical_of_ascii hb,
    qualified_eq_bare (mt String.toList_eq_nil_iff.mp hzero),
    qualified_eq_bare (mt String.toList_eq_nil_iff.mp hbzero), List.map_append,
    List.map_append] at h
  exact List.append_cancel_right h

/-- The canonical form of a name is its own canonical form. It is empty for the empty name only, and
all others end in a dot. A dot put to the end of a name without one does not change it, nor does
writing the name in lowercase. Two ASCII names have the same one exactly when they differ at
most in the case of letters and in a dot at the end. -/
theorem canon_normal_form :
    (∀ s, canon (canon s) = canon s) ∧
      (∀ s, canon s = "" ↔ s = "") ∧
      (∀ s, s ≠ "" → (canon s).toList.getLast? = some '.') ∧
      (∀ s, s ≠ "" → s.toList.getLast? ≠ some '.' → canon (s ++ ".") = canon s) ∧
      (∀ s, canon (String.ofList (Text.lower s.toList)) = canon s) ∧
      ∀ a b, IsAscii a → IsAscii b → (canon a = canon b ↔ Alike a b) := by
  refine ⟨fun s => ?_, fun s => ?_, fun s hs => ?_, fun s hs hdot => ?_, fun s => ?_,
    fun a b ha hb => ⟨alike_of_canon_eq ha hb, Alike.canon_eq⟩⟩
  · rw [canon_eq_iff, canon, String.toList_ofList, canonical_canonical]
  · rw [← String.toList_eq_nil_iff, canon, String.toList_ofList, canonical_eq_nil_iff,
      String.toList_eq_nil_iff]
  · rw [canon, String.toList_ofList]
    exact getLast?_canonical (mt String.toList_eq_nil_iff.mp hs)
  · rw [canon_eq_iff, String.toList_append]
    exact canonical_append_dot hdot (mt String.toList_eq_nil_iff.mp hs)
  · rw [canon_eq_iff, String.toList_ofList, canonical_lower]

/-- The dotted capital I becomes two characters, and the sigma is the last letter although the dot
follows it. -/
theorem canon_normal_form_sigma :
    canon "İΑΣ" = "i̇ας." ∧ canon (canon "İΑΣ") = canon "İΑΣ" ∧
      (canon "İΑΣ").toList.getLast? = some '.' ∧ canon ("İΑΣ" ++ ".") = canon "İΑΣ" ∧
      canon "a.B." = canon "A.b" :=
  ⟨by decide +kernel, canon_normal_form.1 _, canon_normal_form.2.2.1 _ (by decide),
    canon_normal_form.2.2.2.1 _ (by decide) (by decide),
    (canon_normal_form.2.2.2.2.2 _ _ (by decide +kernel) (by decide +kernel)).mpr
      (by decide +kernel)⟩

end ClusterLaunch.DomainName
