import ClusterLaunch.Proofs.Cloud.Pages

/-! # Visited pages

A listing visits the first reply, and the reply after every page that goes on. It asks for each of
them with the cursor to which the pages before lead.
-/

namespace ClusterLaunch

variable {κ : Type} {m : Method}

/-- Some pages are all that a listing visits: the first replies, up to the first of them that does
not go on. -/
def Visits (m : Method) (goesOn : m.Reply → Prop) (a : Answers) (pages : List m.Reply) : Prop :=
  pages.map .ok <+: (a m).map Answer.result ∧
    ∃ init last, pages = init ++ [last] ∧ (∀ page ∈ init, goesOn page) ∧ ¬ goesOn last

theorem visits_iff {goesOn : m.Reply → Bool} {P : m.Reply → Prop}
    (h : ∀ page, goesOn page = true ↔ P page) {a : Answers} {pages : List m.Reply} :
    Visits m P a pages ↔ listing m goesOn (a m) = .ok pages := by
  rw [listing_eq_ok_iff, Visits]
  simp only [← h, Bool.not_eq_true]

theorem getElem?_cursors_zero (next : κ → m.Reply → Option κ) (k : κ)
    (answers : List (Answer m.Reply)) : (cursors next k answers)[0]? = some k := by
  cases answers <;> rfl

/-- Each cursor of a listing is the one to which the replies before it lead, one after the other. -/
theorem getElem?_cursors_eq_some_iff {next : κ → m.Reply → Option κ} {k c : κ} {i : ℕ}
    {answers : List (Answer m.Reply)} :
    (cursors next k answers)[i]? = some c ↔ ∃ pages : List m.Reply, pages.length = i ∧
      pages.map .ok <+: answers.map Answer.result ∧ pages.foldlM next k = some c := by
  induction answers generalizing k i with
  | nil =>
    simp only [cursors, List.map_nil, List.prefix_nil, List.map_eq_nil_iff]
    constructor
    · intro h
      cases i with
      | zero => exact ⟨[], rfl, rfl, h⟩
      | succ i => cases h
    · rintro ⟨_, rfl, rfl, h⟩
      exact h
  | cons answer rest ih =>
    cases i with
    | zero =>
      rw [getElem?_cursors_zero]
      constructor
      · intro h
        exact ⟨[], rfl, List.nil_prefix, h⟩
      · rintro ⟨pages, hlength, -, h⟩
        obtain rfl := List.length_eq_zero_iff.mp hlength
        exact h
    | succ i =>
      rw [cursors, List.getElem?_cons_succ, List.map_cons]
      constructor
      · intro h
        cases hresult : answer.result with
        | error e =>
          rw [hresult] at h
          cases h
        | ok page =>
          simp only [hresult] at h
          cases hnext : next k page with
          | none =>
            rw [hnext] at h
            cases h
          | some k' =>
            simp only [hnext] at h
            obtain ⟨pages, rfl, hle, hc⟩ := ih.mp h
            refine ⟨page :: pages, rfl, List.cons_prefix_cons.mpr ⟨rfl, hle⟩, ?_⟩
            rw [List.foldlM_cons, hnext]
            exact hc
      · rintro ⟨pages, hlength, hle, hc⟩
        obtain ⟨page, pages, rfl⟩ := List.exists_cons_of_length_eq_add_one hlength
        obtain ⟨hresult, hle⟩ := List.cons_prefix_cons.mp hle
        rw [List.foldlM_cons] at hc
        obtain ⟨k', hnext, hc⟩ := Option.bind_eq_some_iff.mp hc
        simp only [← hresult, hnext]
        exact ih.mpr ⟨pages, Nat.succ.inj hlength, hle, hc⟩

/-- Each page after the first is asked for with the token of the page before. -/
theorem cursors_token_of_listing (token : m.Reply → Option String) {k : Option String}
    {answers : List (Answer m.Reply)} {pages : List m.Reply}
    (h : listing m (fun page => (filled (token page)).isSome) answers = .ok pages) :
    cursors (fun _ page => (filled (token page)).map some) k answers =
      k :: pages.dropLast.map token := by
  induction answers generalizing k pages with
  | nil => cases h
  | cons answer rest ih =>
    obtain ⟨page, hpage, h⟩ := bind_eq_ok_iff.mp h
    simp only [cursors, hpage]
    cases ht : filled (token page) with
    | none =>
      rw [if_neg (by simp [ht])] at h
      cases h
      rfl
    | some t =>
      rw [if_pos (by simp [ht])] at h
      obtain ⟨more, hmore, h⟩ := bind_eq_ok_iff.mp h
      cases h
      obtain ⟨-, init, last, hlast, -, -⟩ := listing_eq_ok_iff.mp hmore
      rw [List.dropLast_cons_of_ne_nil (by simp [hlast]), List.map_cons,
        (filled_eq_some_iff.mp ht).1]
      exact congrArg (k :: ·) (ih hmore)

end ClusterLaunch
