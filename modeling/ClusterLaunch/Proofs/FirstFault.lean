import ClusterLaunch.Proofs.Guard

/-! # The first fault

Steps whose faults do not depend on the steps before them. Such a sequence comes to the fault of the
first step that has one, and to no fault exactly when no step has one.
-/

namespace ClusterLaunch

variable {α β γ ε : Type}

/-- The fault of the first member of a list that has one. -/
def FirstFault (Fault : α → ε → Prop) (as : List α) (e : ε) : Prop :=
  ∃ before a after, as = before ++ a :: after ∧ (∀ b ∈ before, ∀ f, ¬ Fault b f) ∧ Fault a e

variable {Fault : α → ε → Prop} {a : α} {as : List α} {e : ε}

theorem not_firstFault_nil : ¬ FirstFault Fault [] e := by
  rintro ⟨before, a, after, h, -⟩
  cases before <;> cases h

theorem firstFault_cons_iff : FirstFault Fault (a :: as) e ↔
    Fault a e ∨ (∀ f, ¬ Fault a f) ∧ FirstFault Fault as e := by
  constructor
  · rintro ⟨before, b, after, h, hbefore, hfault⟩
    cases before with
    | nil =>
      cases h
      exact .inl hfault
    | cons c before =>
      cases h
      obtain ⟨hc, hbefore⟩ := List.forall_mem_cons.mp hbefore
      exact .inr ⟨hc, before, b, after, rfl, hbefore, hfault⟩
  · rintro (hfault | ⟨ha, before, b, after, rfl, hbefore, hfault⟩)
    · exact ⟨[], a, as, rfl, nofun, hfault⟩
    · exact ⟨a :: before, b, after, rfl, List.forall_mem_cons.mpr ⟨ha, hbefore⟩, hfault⟩

theorem exists_firstFault_iff : (∃ e, FirstFault Fault as e) ↔ ∃ a ∈ as, ∃ e, Fault a e := by
  induction as with
  | nil => exact iff_of_false (fun ⟨_, h⟩ => not_firstFault_nil h) (by simp)
  | cons a as ih =>
    simp only [firstFault_cons_iff, List.mem_cons, exists_eq_or_imp, exists_or, exists_and_left, ih]
    constructor
    · exact Or.imp_right And.right
    · intro h
      by_cases ha : ∃ f, Fault a f
      · exact .inl ha
      · exact .inr ⟨not_exists.mp ha, h.resolve_left ha⟩

/-- A step that fails for its own member alone stands in front of the steps after it. -/
theorem bind_firstFault_iff {x : Except ε β} {f : β → Except ε γ}
    (hx : ∀ e, x = .error e ↔ Fault a e)
    (hf : ∀ b, x = .ok b → ∀ e, f b = .error e ↔ FirstFault Fault as e) :
    (x >>= f) = .error e ↔ FirstFault Fault (a :: as) e := by
  rw [bind_eq_error_iff, firstFault_cons_iff, hx]
  refine or_congr_right ?_
  constructor
  · rintro ⟨b, hb, h⟩
    refine ⟨fun e' he' => ?_, (hf b hb e).mp h⟩
    cases hb.symm.trans ((hx e').mpr he')
  · rintro ⟨hnone, h⟩
    cases hb : x with
    | error e' => exact absurd ((hx e').mp hb) (hnone e')
    | ok b => exact ⟨b, rfl, (hf b hb e).mpr h⟩

/-- A guard stands in front of what it guards. -/
theorem guard_firstFault_iff {p : Prop} [Decidable p] {f : ε} {x : Except ε β}
    (hp : ∀ e, Fault a e ↔ p ∧ e = f) (hx : x = .error e ↔ FirstFault Fault as e) :
    (if p then .error f else x) = .error e ↔ FirstFault Fault (a :: as) e := by
  rw [firstFault_cons_iff, ← hx]
  by_cases h : p <;> simp [hp, h, eq_comm]

/-- A fold whose steps fail for their own member alone fails with the first fault. -/
theorem foldlM_eq_error_iff {g : β → α → Except ε β}
    (hg : ∀ b a e, g b a = .error e ↔ Fault a e) {b : β} :
    as.foldlM g b = .error e ↔ FirstFault Fault as e := by
  induction as generalizing b e with
  | nil => exact iff_of_false nofun not_firstFault_nil
  | cons a as ih =>
    rw [List.foldlM_cons]
    exact bind_firstFault_iff (hg b a) fun _ _ _ => ih

end ClusterLaunch
