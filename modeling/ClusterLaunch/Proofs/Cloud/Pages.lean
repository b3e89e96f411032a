import ClusterLaunch.Proofs.Cloud.Requests
import ClusterLaunch.Proofs.Guard

/-! # Reading pages

A listing takes the answers of a method up to the first page without a successor. The number of
pages that are allowed never ends it, because every page uses up an answer.
-/

namespace ClusterLaunch

variable {κ : Type} {m : Method}

/-- The pages that a listing visits, up to the first without a successor. -/
def listing (m : Method) (goesOn : m.Reply → Bool) :
    List (Answer m.Reply) → Except Failure (List m.Reply)
  | [] => .error (.exhausted m)
  | answer :: rest => do
    let page ← answer.result
    if goesOn page then return page :: (← listing m goesOn rest) else return [page]

/-- The pages of a listing are the first answers, and the last of them is the first that does not
go on. -/
theorem listing_eq_ok_iff {goesOn : m.Reply → Bool} {answers : List (Answer m.Reply)}
    {pages : List m.Reply} :
    listing m goesOn answers = .ok pages ↔
      pages.map .ok <+: answers.map Answer.result ∧
        ∃ init last, pages = init ++ [last] ∧ (∀ page ∈ init, goesOn page = true) ∧
          goesOn last = false := by
  induction answers generalizing pages with
  | nil =>
    refine ⟨nofun, ?_⟩
    rintro ⟨hle, init, last, rfl, -⟩
    simp at hle
  | cons answer rest ih =>
    rw [listing, bind_eq_ok_iff]
    constructor
    · rintro ⟨page, hpage, h⟩
      rw [List.map_cons, hpage]
      by_cases hgo : goesOn page = true
      · rw [if_pos hgo, bind_eq_ok_iff] at h
        obtain ⟨more, hmore, h⟩ := h
        cases h
        obtain ⟨hle, init, last, rfl, hinit, hlast⟩ := ih.mp hmore
        exact ⟨List.cons_prefix_cons.mpr ⟨rfl, hle⟩, page :: init, last, rfl,
          List.forall_mem_cons.mpr ⟨hgo, hinit⟩, hlast⟩
      · rw [if_neg hgo] at h
        cases h
        exact ⟨List.cons_prefix_cons.mpr ⟨rfl, List.nil_prefix⟩, [], page, rfl, nofun,
          Bool.not_eq_true _ ▸ hgo⟩
    · rintro ⟨hle, init, last, rfl, hinit, hlast⟩
      cases init with
      | nil =>
        refine ⟨last, (List.cons_prefix_cons.mp hle).1.symm, ?_⟩
        rw [if_neg (by simp [hlast])]
        rfl
      | cons page init =>
        obtain ⟨hgo, hinit⟩ := List.forall_mem_cons.mp hinit
        obtain ⟨hpage, hle⟩ := List.cons_prefix_cons.mp hle
        refine ⟨page, hpage.symm, ?_⟩
        rw [if_pos hgo, bind_eq_ok_iff]
        exact ⟨_, ih.mpr ⟨hle, init, last, rfl, hinit, hlast⟩, rfl⟩

/-- The cursors that a listing asks with: the first one, and after each page that has a successor
the cursor of the successor. -/
def cursors (next : κ → m.Reply → Option κ) : κ → List (Answer m.Reply) → List κ
  | k, [] => [k]
  | k, answer :: rest =>
    k :: match answer.result with
      | .error _ => []
      | .ok page => match next k page with
        | none => []
        | some k' => cursors next k' rest

namespace Session

/-- A session that asks a method once, and comes to the answer. -/
structure Fetches (m : Method) (x : Session m.Reply) : Prop where
  follows : x.Follows {[m]}
  outcome : ∀ w, (x.run w).outcome = w.answers.next m

theorem fetches_ask (r : Request) : Fetches r.method (ask r) :=
  ⟨follows_ask r, outcome_ask r⟩

theorem Fetches.methods {x : Session m.Reply} (hx : Fetches m x) {w : World} {page : m.Reply}
    (h : (x.run w).outcome = .ok page) : (x.run w).methods = [m] :=
  (hx.follows w).ends page h

/-- A fetch that succeeds takes the first answer. -/
theorem Fetches.answers {x : Session m.Reply} (hx : Fetches m x) {w : World} {page : m.Reply}
    (h : (x.run w).outcome = .ok page) :
    ∃ answer, answer.result = .ok page ∧
      w.answers m = answer :: (x.run w).world.answers m := by
  have hleft : (x.run w).world.answers m = (w.answers m).tail := by
    rw [(hx.follows w).answers, hx.methods h, Answers.after_apply]
    simp
  have hnext := hx.outcome w
  rw [h, Answers.next, Answers.reply] at hnext
  cases hw : w.answers m with
  | nil => simp [hw] at hnext
  | cons answer rest =>
    refine ⟨answer, ?_, by rw [hleft, hw]; rfl⟩
    simpa [hw] using hnext.symm

variable {fetch : κ → Session m.Reply} {next : κ → m.Reply → Option κ}
  {goesOn : m.Reply → Bool}

theorem follows_pages (hf : ∀ k, Fetches m (fetch k)) (more : ℕ) (k : κ) :
    (pages fetch next more k).Follows (repeated m) := by
  induction more generalizing k with
  | zero =>
    exact ((hf k).follows.bind_silent fun page => follows_pure [page]).mono
      (singleton_le_repeated m)
  | succ more ih =>
    have hwords : {[m]} * (1 + repeated m) ≤ repeated m :=
      calc ({[m]} : Language Method) * (1 + repeated m)
          = {[m]} + {[m]} * repeated m := by rw [mul_add, mul_one]
        _ ≤ repeated m := add_le (singleton_le_repeated m) (singleton_mul_repeated_le m)
    refine ((hf k).follows.bind (fun page => ?_) ⟨[], .inl rfl⟩).mono hwords
    -- a page without a successor ends the word, any other one puts a word of the rest after it
    cases next k page with
    | none => exact (follows_pure _).mono le_self_add
    | some k' => exact ((ih k').bind_silent fun _ => follows_pure _).mono le_add_self

theorem follows_allPages (hf : ∀ k, Fetches m (fetch k)) (k : κ) :
    (allPages m fetch next k).Follows (repeated m) :=
  fun w => (follows_pages hf (w.answers m).length k) w

/-- A listing that succeeds asks once for every page. -/
theorem methods_pages (hf : ∀ k, Fetches m (fetch k)) {more : ℕ} {k : κ} {w : World}
    {ps : List m.Reply} (h : ((pages fetch next more k).run w).outcome = .ok ps) :
    ((pages fetch next more k).run w).methods = List.replicate ps.length m := by
  induction more generalizing k w ps with
  | zero =>
    obtain ⟨page, hpage, hps⟩ := outcome_bind_eq_ok_iff.mp h
    cases hps
    rw [pages, methods_bind_ok hpage, (hf k).methods hpage]
    rfl
  | succ more ih =>
    obtain ⟨page, hpage, h⟩ := outcome_bind_eq_ok_iff.mp h
    rw [pages, methods_bind_ok hpage, (hf k).methods hpage]
    cases hk : next k page with
    | none =>
      rw [hk] at h
      cases h
      rfl
    | some k' =>
      rw [hk] at h
      obtain ⟨rest, hrest, hps⟩ := outcome_bind_eq_ok_iff.mp h
      cases hps
      change [m] ++ Run.methods (Session.run (pages fetch next more k' >>= _) _) = _
      rw [methods_bind_ok hrest, ih hrest]
      exact congrArg (m :: ·) (List.append_nil _)

theorem methods_allPages (hf : ∀ k, Fetches m (fetch k)) {k : κ} {w : World}
    {ps : List m.Reply} (h : ((allPages m fetch next k).run w).outcome = .ok ps) :
    ((allPages m fetch next k).run w).methods = List.replicate ps.length m :=
  methods_pages hf h

theorem outcome_pages (hf : ∀ k, Fetches m (fetch k))
    (hn : ∀ k page, (next k page).isSome = goesOn page) {more : ℕ} {k : κ} {w : World}
    (hmore : (w.answers m).length = more) :
    ((pages fetch next more k).run w).outcome = listing m goesOn (w.answers m) := by
  induction more generalizing k w with
  | zero =>
    have hw : w.answers m = [] := List.length_eq_zero_iff.mp hmore
    rw [pages, outcome_bind, (hf k).outcome, Answers.next, Answers.reply, hw]
    rfl
  | succ more ih =>
    rw [pages, outcome_bind]
    cases h : ((fetch k).run w).outcome with
    | error e =>
      rw [(hf k).outcome, Answers.next, Answers.reply] at h
      cases hw : w.answers m with
      | nil => simp [hw] at hmore
      | cons answer rest =>
        have hr : answer.result = .error e := by simpa [hw] using h
        simp only [listing, hr]
        rfl
    | ok page =>
      obtain ⟨answer, hr, hw⟩ := (hf k).answers h
      have hleft : (((fetch k).run w).world.answers m).length = more := by
        rw [hw] at hmore
        simpa using hmore
      rw [hw, listing, hr, ok_bind, ok_bind]
      cases hk : next k page with
      | none =>
        rw [if_neg (by simp [← hn k page, hk])]
        rfl
      | some k' =>
        have hgo : goesOn page = true := by rw [← hn k page, hk]; rfl
        rw [if_pos hgo, outcome_bind, ih hleft]
        rfl

/-- All pages are those that the listing visits, whatever else is in the world. -/
theorem outcome_allPages (hf : ∀ k, Fetches m (fetch k))
    (hn : ∀ k page, (next k page).isSome = goesOn page) (k : κ) (w : World) :
    ((allPages m fetch next k).run w).outcome = listing m goesOn (w.answers m) :=
  outcome_pages hf hn rfl

theorem requests_pages (hf : ∀ k, Fetches m (fetch k)) {request : κ → Request}
    (hr : ∀ k w, ((fetch k).run w).requests = [request k]) {more : ℕ} {k : κ} {w : World}
    (hmore : (w.answers m).length = more) :
    ((pages fetch next more k).run w).requests =
      (cursors next k (w.answers m)).map request := by
  induction more generalizing k w with
  | zero =>
    have hw : w.answers m = [] := List.length_eq_zero_iff.mp hmore
    have hnext : ((fetch k).run w).outcome = .error (.exhausted m) := by
      rw [(hf k).outcome, Answers.next, Answers.reply, hw]
      rfl
    rw [pages, requests_bind_error hnext, hr, hw]
    rfl
  | succ more ih =>
    cases h : ((fetch k).run w).outcome with
    | error e =>
      rw [pages, requests_bind_error h, hr]
      rw [(hf k).outcome, Answers.next, Answers.reply] at h
      cases hw : w.answers m with
      | nil => simp [hw] at hmore
      | cons answer rest =>
        have hresult : answer.result = .error e := by simpa [hw] using h
        simp only [cursors, hresult]
        rfl
    | ok page =>
      obtain ⟨answer, hresult, hw⟩ := (hf k).answers h
      have hleft : (((fetch k).run w).world.answers m).length = more := by
        rw [hw] at hmore
        simpa using hmore
      rw [pages, requests_bind_ok h, hr, hw]
      simp only [cursors, hresult]
      cases next k page with
      | none => rfl
      | some k' =>
        have hrest : Run.requests (Session.run (do
            return page :: (← pages fetch next more k')) ((fetch k).run w).world) =
            ((pages fetch next more k').run ((fetch k).run w).world).requests :=
          requests_bind_of_nil fun _ _ => rfl
        exact congrArg (request k :: ·) (hrest.trans (ih hleft))

/-- A listing asks with the cursors that its answers give. -/
theorem requests_allPages (hf : ∀ k, Fetches m (fetch k)) {request : κ → Request}
    (hr : ∀ k w, ((fetch k).run w).requests = [request k]) (k : κ) (w : World) :
    ((allPages m fetch next k).run w).requests = (cursors next k (w.answers m)).map request :=
  requests_pages hf hr rfl

end Session

end ClusterLaunch
