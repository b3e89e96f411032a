/-! # Sequences of guards

What the success of a sequence says about its parts.
-/

namespace ClusterLaunch

variable {α β ε ε' : Type}

theorem bind_eq_ok_iff {x : Except ε α} {f : α → Except ε β} {b : β} :
    (x >>= f) = .ok b ↔ ∃ a, x = .ok a ∧ f a = .ok b := by
  cases x with
  | error e => exact ⟨nofun, fun ⟨_, h, _⟩ => nomatch h⟩
  | ok a => exact ⟨fun h => ⟨a, rfl, h⟩, fun ⟨_, h, hf⟩ => by cases h; exact hf⟩

theorem bind_eq_error_iff {x : Except ε α} {f : α → Except ε β} {e : ε} :
    (x >>= f) = .error e ↔ x = .error e ∨ ∃ a, x = .ok a ∧ f a = .error e := by
  constructor
  · intro h
    cases x with
    | error e' => exact .inl (congrArg Except.error (Except.error.inj h))
    | ok a => exact .inr ⟨a, rfl, h⟩
  · rintro (rfl | ⟨a, rfl, h⟩)
    · rfl
    · exact h

theorem throw_eq_error (e : ε) : (throw e : Except ε α) = .error e := rfl

theorem map_ok (f : α → β) (a : α) : (Except.ok a : Except ε α).map f = .ok (f a) := rfl

theorem ok_bind (a : α) (f : α → Except ε β) : (.ok a >>= f) = f a := rfl

theorem error_bind (e : ε) (f : α → Except ε β) : (.error e >>= f) = .error e := rfl

theorem guard_eq_ok_iff {p : Prop} [Decidable p] {e : ε} {x : Except ε α} {a : α} :
    (if p then .error e else x) = .ok a ↔ ¬ p ∧ x = .ok a := by
  by_cases h : p <;> simp [h]

theorem mapError_ok (f : ε → ε') (a : α) : (Except.ok a).mapError f = .ok a := rfl

theorem mapError_error (f : ε → ε') (e : ε) :
    (Except.error e : Except ε α).mapError f = .error (f e) := rfl

theorem mapError_eq_ok_iff {x : Except ε α} {f : ε → ε'} {a : α} :
    x.mapError f = .ok a ↔ x = .ok a := by
  cases x with
  | error e => exact ⟨nofun, nofun⟩
  | ok b => exact ⟨fun h => by cases h; rfl, fun h => by cases h; rfl⟩

/-- All failures that a result can be are of one kind. -/
def FailsWith (P : ε → Prop) (x : Except ε α) : Prop := ∀ e, x = .error e → P e

section FailsWith

variable {P Q : ε → Prop} {x : Except ε α} {f : α → Except ε β}

theorem failsWith_ok (a : α) : FailsWith P (.ok a) := nofun

theorem failsWith_error {e : ε} (h : P e) : FailsWith P (.error e : Except ε α) := by
  intro e' he
  cases he
  exact h

/-- The second of two steps fails only where the first has come to a value. -/
theorem FailsWith.bind (hx : FailsWith P x) (hf : ∀ a, x = .ok a → FailsWith P (f a)) :
    FailsWith P (x >>= f) := by
  intro e he
  cases x with
  | error e' => exact hx e (Except.error.inj he ▸ rfl)
  | ok a => exact hf a rfl e he

theorem failsWith_guard {p : Prop} [Decidable p] {e : ε} (he : p → P e) (hx : FailsWith P x) :
    FailsWith P (if p then .error e else x) := by
  split
  · rename_i h
    exact failsWith_error (he h)
  · exact hx

theorem failsWith_mapError {P : ε' → Prop} {g : ε → ε'}
    (h : ∀ e, x = .error e → P (g e)) : FailsWith P (x.mapError g) := by
  cases x with
  | error e => exact failsWith_error (h e rfl)
  | ok a => exact failsWith_ok a

theorem FailsWith.mono (hx : FailsWith P x) (h : ∀ e, P e → Q e) : FailsWith Q x :=
  fun e he => h e (hx e he)

theorem FailsWith.map (hx : FailsWith P x) (g : α → β) : FailsWith P (x.map g) := by
  cases x with
  | error e => exact failsWith_error (hx e rfl)
  | ok a => exact failsWith_ok (g a)

theorem failsWith_mapM {g : β → Except ε α} (hg : ∀ b, FailsWith P (g b)) (bs : List β) :
    FailsWith P (bs.mapM g) := by
  induction bs with
  | nil => exact failsWith_ok []
  | cons b bs ih =>
    rw [List.mapM_cons]
    exact (hg b).bind fun _ _ => ih.bind fun _ _ => failsWith_ok _

theorem failsWith_foldlM {g : α → β → Except ε α} (hg : ∀ a b, FailsWith P (g a b))
    (bs : List β) (a : α) : FailsWith P (bs.foldlM g a) := by
  induction bs generalizing a with
  | nil => exact failsWith_ok a
  | cons b bs ih =>
    rw [List.foldlM_cons]
    exact (hg a b).bind fun a' _ => ih a'

end FailsWith

end ClusterLaunch
