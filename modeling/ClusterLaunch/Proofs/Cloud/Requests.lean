import Mathlib
import ClusterLaunch.Proofs.Cloud.Outcome

/-! # The requests of a run

The methods that a run asks form a word. A run follows a language when this word begins one of its
words, and is one if nothing failed. Languages compose as sessions do, and since every request uses
up one answer of its own method, the word also says which answers are left.
-/

namespace ClusterLaunch

open Computability

variable {α β : Type}

def Event.request? : Event → Option Request
  | .requested r => some r
  | _ => none

namespace Run

def requests (r : Run α) : List Request := r.events.filterMap Event.request?

def methods (r : Run α) : List Method := r.requests.map Request.method

end Run

namespace Answers

def after (a : Answers) (ms : List Method) : Answers := ms.foldl drop a

@[simp] theorem after_append (a : Answers) (ms ms' : List Method) :
    a.after (ms ++ ms') = (a.after ms).after ms' := List.foldl_append

theorem after_apply (a : Answers) (ms : List Method) (m : Method) :
    a.after ms m = (a m).drop (ms.count m) := by
  induction ms generalizing a with
  | nil => rfl
  | cons m' ms ih =>
    change (a.drop m').after ms m = _
    rw [ih]
    by_cases h : m = m'
    · subst h
      rw [drop_self, List.count_cons_self, List.drop_tail]
    · rw [drop_of_ne _ h, List.count_cons_of_ne (Ne.symm h)]

theorem after_apply_of_not_mem {a : Answers} {ms : List Method} {m : Method} (h : m ∉ ms) :
    a.after ms m = a m := by
  rw [after_apply, List.count_eq_zero.mpr h, List.drop_zero]

end Answers

/-- A run from a world follows a language of methods. -/
structure Run.Follows (r : Run α) (w : World) (L : Language Method) : Prop where
  begins : ∃ word ∈ L, r.methods <+: word
  ends : ∀ a, r.outcome = .ok a → r.methods ∈ L
  answers : r.world.answers = w.answers.after r.methods

theorem Run.Follows.mono {r : Run α} {w : World} {L K : Language Method} (h : r.Follows w L)
    (hL : L ≤ K) : r.Follows w K :=
  have ⟨word, hword, hle⟩ := h.begins
  ⟨⟨word, hL hword, hle⟩, fun a ha => hL (h.ends a ha), h.answers⟩

namespace Session

def Follows (x : Session α) (L : Language Method) : Prop := ∀ w, (x.run w).Follows w L

variable {x : Session α} {f : α → Session β} {w : World} {L K : Language Method}

theorem requests_bind_ok {a : α} (h : (x.run w).outcome = .ok a) :
    ((x >>= f).run w).requests =
      (x.run w).requests ++ ((f a).run (x.run w).world).requests := by
  rw [run_bind_ok h]
  exact List.filterMap_append

theorem requests_bind_error {e : Failure} (h : (x.run w).outcome = .error e) :
    ((x >>= f).run w).requests = (x.run w).requests := by
  rw [run_bind_error h]
  rfl

/-- What comes after a session asks nothing, so the requests are those of the session. -/
theorem requests_bind_of_nil (hf : ∀ a v, ((f a).run v).requests = []) :
    ((x >>= f).run w).requests = (x.run w).requests := by
  cases h : (x.run w).outcome with
  | error e => exact requests_bind_error h
  | ok a => rw [requests_bind_ok h, hf, List.append_nil]

theorem methods_bind_ok {a : α} (h : (x.run w).outcome = .ok a) :
    ((x >>= f).run w).methods = (x.run w).methods ++ ((f a).run (x.run w).world).methods := by
  simp only [Run.methods, requests_bind_ok h, List.map_append]

theorem methods_bind_error {e : Failure} (h : (x.run w).outcome = .error e) :
    ((x >>= f).run w).methods = (x.run w).methods := by
  simp only [Run.methods, requests_bind_error h]

theorem methods_prefix_bind (x : Session α) (f : α → Session β) (w : World) :
    (x.run w).methods <+: ((x >>= f).run w).methods := by
  cases h : (x.run w).outcome with
  | error e => rw [methods_bind_error h]
  | ok a =>
    rw [methods_bind_ok h]
    exact List.prefix_append _ _

theorem methods_ask (r : Request) (w : World) : ((ask r).run w).methods = [r.method] := by
  rw [run_ask]
  rfl

/-- A session that only writes: it succeeds, asks nothing and leaves the world as it is. -/
structure Silent (y : Session Unit) : Prop where
  outcome : ∀ w, (y.run w).outcome = .ok ()
  requests : ∀ w, (y.run w).requests = []
  world : ∀ w, (y.run w).world = w

theorem silent_log (level : Level) (origin : Origin) (message : String) :
    (log level origin message).Silent :=
  ⟨fun _ => rfl, fun _ => rfl, fun _ => rfl⟩

theorem silent_print (line : String) : (print line).Silent :=
  ⟨fun _ => rfl, fun _ => rfl, fun _ => rfl⟩

theorem silent_complain (line : String) : (complain line).Silent :=
  ⟨fun _ => rfl, fun _ => rfl, fun _ => rfl⟩

theorem silent_pure : (pure () : Session Unit).Silent :=
  ⟨fun _ => rfl, fun _ => rfl, fun _ => rfl⟩

theorem Silent.outcome_bind {y : Session Unit} (hy : y.Silent) (g : Unit → Session β)
    (w : World) : ((y >>= g).run w).outcome = ((g ()).run w).outcome := by
  rw [run_bind_ok (hy.outcome w), hy.world]

theorem Silent.requests_bind {y : Session Unit} (hy : y.Silent) (g : Unit → Session β)
    (w : World) : ((y >>= g).run w).requests = ((g ()).run w).requests := by
  rw [requests_bind_ok (hy.outcome w), hy.requests, hy.world, List.nil_append]

theorem Silent.methods_bind {y : Session Unit} (hy : y.Silent) (g : Unit → Session β)
    (w : World) : ((y >>= g).run w).methods = ((g ()).run w).methods :=
  congrArg (List.map Request.method) (hy.requests_bind g w)

theorem Silent.world_bind {y : Session Unit} (hy : y.Silent) (g : Unit → Session β)
    (w : World) : ((y >>= g).run w).world = ((g ()).run w).world := by
  rw [run_bind_ok (hy.outcome w), hy.world]

theorem Silent.bind {y z : Session Unit} (hy : y.Silent) (hz : z.Silent) :
    (y >>= fun _ => z).Silent where
  outcome w := by rw [hy.outcome_bind, hz.outcome]
  requests w := by rw [hy.requests_bind, hz.requests]
  world w := by rw [hy.world_bind, hz.world]

theorem silent_forM {ι : Type} {f : ι → Session Unit} (hf : ∀ i, (f i).Silent) (is : List ι) :
    (is.forM f).Silent := by
  induction is with
  | nil => exact silent_pure
  | cons i is ih => exact (hf i).bind ih

/-- A request of two sessions in a row is one of the first, or one of the second and the first came
to a result. -/
theorem mem_requests_bind {r : Request} (h : r ∈ ((x >>= f).run w).requests) :
    r ∈ (x.run w).requests ∨
      ∃ a, (x.run w).outcome = .ok a ∧ r ∈ ((f a).run (x.run w).world).requests := by
  cases hx : (x.run w).outcome with
  | error e => exact .inl (by rwa [requests_bind_error hx] at h)
  | ok a =>
    rw [requests_bind_ok hx, List.mem_append] at h
    exact h.imp_right fun h => ⟨a, rfl, h⟩

theorem Follows.nonempty (h : x.Follows L) : ∃ word, word ∈ L :=
  have ⟨word, hword, _⟩ := (h ⟨fun _ => [], 0.0, none⟩).begins
  ⟨word, hword⟩

theorem Follows.mono (h : x.Follows L) (hL : L ≤ K) : x.Follows K :=
  fun w => (h w).mono hL

theorem Follows.exists_mem (h : x.Follows L) {m : Method} (hm : m ∈ (x.run w).methods) :
    ∃ word ∈ L, m ∈ word :=
  have ⟨word, hword, hle⟩ := (h w).begins
  ⟨word, hword, hle.subset hm⟩

theorem Follows.exists_mem_of_request (h : x.Follows L) {r : Request}
    (hr : r ∈ (x.run w).requests) : ∃ word ∈ L, r.method ∈ word :=
  h.exists_mem (List.mem_map_of_mem hr)

/-- Methods that no word of the language has keep their answers. -/
theorem Follows.answers_eq (h : x.Follows L) {m : Method} (hm : ∀ word ∈ L, m ∉ word) :
    (x.run w).world.answers m = w.answers m := by
  rw [(h w).answers, Answers.after_apply_of_not_mem]
  intro hmem
  obtain ⟨word, hword, hin⟩ := h.exists_mem hmem
  exact hm word hword hin

/-- A session that asks nothing and leaves the answers alone follows the empty word. -/
theorem follows_one (hm : ∀ w, (x.run w).methods = [])
    (ha : ∀ w, (x.run w).world.answers = w.answers) : x.Follows 1 := fun w =>
  { begins := ⟨[], Language.nil_mem_one, by rw [hm]⟩
    ends := fun _ _ => by rw [hm]; exact Language.nil_mem_one
    answers := by rw [hm, ha]; rfl }

theorem follows_pure (a : α) : (pure a : Session α).Follows 1 :=
  follows_one (fun _ => rfl) (fun _ => rfl)

theorem follows_ofResult (r : Except Failure α) : (ofResult r).Follows 1 :=
  follows_one (fun w => by rw [run_ofResult]; rfl) (fun w => by rw [run_ofResult])

theorem follows_fail (e : Failure) (hL : ∃ word, word ∈ L) : (fail e : Session α).Follows L :=
  fun _ =>
    have ⟨word, hword⟩ := hL
    ⟨⟨word, hword, List.nil_prefix⟩, nofun, rfl⟩

theorem follows_ask (r : Request) : (ask r).Follows {[r.method]} := fun w => by
  refine ⟨⟨[r.method], rfl, by rw [methods_ask]⟩, fun _ _ => by rw [methods_ask]; rfl, ?_⟩
  rw [methods_ask, run_ask]
  rfl

theorem Follows.reword (h : x.Follows L) (codes : List String) (e : Failure) :
    (x.reword codes e).Follows L := fun w => by
  have hm : ((x.reword codes e).run w).methods = (x.run w).methods := by rw [run_reword]; rfl
  refine ⟨by rw [hm]; exact (h w).begins, fun a ha => ?_, ?_⟩
  · rw [hm]
    rw [run_reword] at ha
    cases hx : (x.run w).outcome with
    | ok b => exact (h w).ends b hx
    | error f =>
      rw [hx] at ha
      cases ha
  · rw [hm, run_reword]
    exact (h w).answers

theorem Silent.follows {y : Session Unit} (hy : y.Silent) : y.Follows 1 :=
  follows_one (fun w => by rw [Run.methods, hy.requests]; rfl) (fun w => by rw [hy.world])

theorem Silent.follows_bind_run {y : Session Unit} {g : Unit → Session β} (hy : y.Silent)
    (hg : ((g ()).run w).Follows w K) : ((y >>= g).run w).Follows w K where
  begins := by rw [hy.methods_bind]; exact hg.begins
  ends := by rw [hy.methods_bind, hy.outcome_bind]; exact hg.ends
  answers := by rw [hy.methods_bind, hy.world_bind]; exact hg.answers

theorem Silent.follows_bind {y : Session Unit} {g : Unit → Session β} (hy : y.Silent)
    (hg : (g ()).Follows K) : (y >>= g).Follows K :=
  fun w => hy.follows_bind_run (hg w)

/-- The languages of two sessions in a row are concatenated. -/
theorem follows_bind_run (hx : (x.run w).Follows w L)
    (hf : ∀ a, (x.run w).outcome = .ok a →
      ((f a).run (x.run w).world).Follows (x.run w).world K)
    (hK : ∃ word, word ∈ K) : ((x >>= f).run w).Follows w (L * K) := by
  cases h : (x.run w).outcome with
  | error e =>
    obtain ⟨word, hword, hle⟩ := hx.begins
    obtain ⟨rest, hrest⟩ := hK
    refine ⟨⟨word ++ rest, Language.append_mem_mul hword hrest, ?_⟩, fun b hb => ?_, ?_⟩
    · rw [methods_bind_error h]
      exact hle.trans (List.prefix_append _ _)
    · rw [run_bind_error h] at hb
      cases hb
    · rw [methods_bind_error h, run_bind_error h]
      exact hx.answers
  | ok a =>
    have hxL := hx.ends a h
    obtain ⟨⟨word, hword, hle⟩, hends, hanswers⟩ := hf a h
    refine ⟨⟨_, Language.append_mem_mul hxL hword, ?_⟩, fun b hb => ?_, ?_⟩
    · rw [methods_bind_ok h]
      exact (List.prefix_append_right_inj _).mpr hle
    · rw [methods_bind_ok h]
      rw [run_bind_ok h] at hb
      exact Language.append_mem_mul hxL (hends b hb)
    · rw [methods_bind_ok h, run_bind_ok h, Answers.after_append, ← hx.answers]
      exact hanswers

theorem Follows.bind (hx : x.Follows L) (hf : ∀ a, (f a).Follows K) (hK : ∃ word, word ∈ K) :
    (x >>= f).Follows (L * K) :=
  fun w => follows_bind_run (hx w) (fun a _ => hf a _) hK

theorem Follows.bind_silent (hx : x.Follows L) (hf : ∀ a, (f a).Follows 1) :
    (x >>= f).Follows L := by
  simpa using hx.bind hf ⟨[], Language.nil_mem_one⟩

end Session

theorem exists_mem_of_mem_mul {L K : Language Method} {word : List Method} {m : Method}
    (hword : word ∈ L * K) (hm : m ∈ word) : (∃ u ∈ L, m ∈ u) ∨ ∃ v ∈ K, m ∈ v := by
  obtain ⟨u, hu, v, hv, rfl⟩ := Language.mem_mul.mp hword
  exact (List.mem_append.mp hm).imp (fun h => ⟨u, hu, h⟩) (fun h => ⟨v, hv, h⟩)

def repeated (m : Method) : Language Method := {[m]} * {[m]}∗

theorem singleton_le_repeated (m : Method) : ({[m]} : Language Method) ≤ repeated m :=
  calc ({[m]} : Language Method) = {[m]} * 1 := (mul_one _).symm
    _ ≤ {[m]} * {[m]}∗ := by gcongr; exact one_le_kstar

theorem singleton_mul_repeated_le (m : Method) : {[m]} * repeated m ≤ repeated m := by
  unfold repeated
  gcongr
  exact mul_kstar_le_kstar

theorem replicate_mem_repeated (m : Method) (n : ℕ) :
    List.replicate (n + 1) m ∈ repeated m := by
  induction n with
  | zero => exact singleton_le_repeated m rfl
  | succ n ih =>
    exact singleton_mul_repeated_le m (Language.append_mem_mul (a := [m]) rfl ih)

theorem eq_of_mem_repeated {m m' : Method} {word : List Method} (hword : word ∈ repeated m)
    (hm : m' ∈ word) : m' = m := by
  obtain ⟨_, rfl, _, hrest, rfl⟩ := Language.mem_mul.mp hword
  obtain ⟨words, rfl, hwords⟩ := Language.mem_kstar.mp hrest
  rcases List.mem_append.mp hm with hm | hm
  · exact List.mem_singleton.mp hm
  · obtain ⟨single, hsingle, hm⟩ := List.mem_flatten.mp hm
    obtain rfl : single = [m] := hwords single hsingle
    exact List.mem_singleton.mp hm

end ClusterLaunch
