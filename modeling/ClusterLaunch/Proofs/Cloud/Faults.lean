import ClusterLaunch.Proofs.Cloud.Inquiry

/-! # Requests that fail

A request that comes to a failure is the last thing that a run does: nothing is asked again, nothing
else is done, and the run comes to that failure, worded as the method has it.
-/

namespace ClusterLaunch

variable {α β : Type}

def Event.methods (events : List Event) : List Method :=
  (events.filterMap Event.request?).map Request.method

@[simp] theorem Event.methods_append (s t : List Event) :
    Event.methods (s ++ t) = Event.methods s ++ Event.methods t := by
  simp only [Event.methods, List.filterMap_append, List.map_append]

/-- What the next request of a method comes to after some events. -/
def World.replyAfter (w : World) (events : List Event) (m : Method) : Except Failure m.Reply :=
  w.answers.reply m ((Event.methods events).count m)

theorem Answers.reply_after (a : Answers) (ms : List Method) (m : Method) (i : ℕ) :
    (a.after ms).reply m i = a.reply m (ms.count m + i) := by
  unfold reply
  rw [after_apply, List.getElem?_drop]

namespace Session

/-- A request that comes to a failure ends the runs of a session. -/
structure FailsFast (σ : Method → Failure → Failure) (x : Session α) : Prop where
  answers : ∀ w, (x.run w).world.answers = w.answers.after (x.run w).methods
  stops : ∀ {w before r after e}, (x.run w).events = before ++ .requested r :: after →
    w.replyAfter before r.method = .error e → after = [] ∧ (x.run w).outcome = .error (σ r.method e)

variable {σ : Method → Failure → Failure} {x : Session α} {f : α → Session β}

/-- A session that asks nothing has no request to fail. -/
theorem failsFast_of_requests (hr : ∀ w, (x.run w).requests = [])
    (ha : ∀ w, (x.run w).world.answers = w.answers) : FailsFast σ x where
  answers w := by
    rw [ha, Run.methods, hr]
    rfl
  stops := by
    intro w before r after e h _
    have hmem : r ∈ (x.run w).requests :=
      List.mem_filterMap.mpr ⟨.requested r, by simp [h], rfl⟩
    rw [hr] at hmem
    cases hmem

theorem Silent.failsFast {y : Session Unit} (hy : y.Silent) : FailsFast σ y :=
  failsFast_of_requests hy.requests fun w => congrArg World.answers (hy.world w)

theorem failsFast_pure (a : α) : FailsFast σ (pure a) :=
  failsFast_of_requests (fun _ => rfl) fun _ => rfl

theorem failsFast_fail (e : Failure) : FailsFast σ (fail e : Session α) :=
  failsFast_of_requests (fun _ => rfl) fun _ => rfl

/-- A session that makes one request and passes its failure on. -/
theorem failsFast_of_ask {r : Request} {x : Session r.method.Reply}
    (h : ∀ w, x.run w = ⟨(w.answers.next r.method).mapError (σ r.method), [.requested r],
      ((ask r).run w).world⟩) : FailsFast σ x where
  answers w := by
    rw [h, run_ask]
    rfl
  stops := by
    intro w before r' after e hevents he
    rw [h] at hevents ⊢
    obtain ⟨rfl, hr⟩ | ⟨-, hnil⟩ := List.singleton_eq_append_iff.mp hevents
    · cases hr
      exact ⟨rfl, congrArg (Except.mapError (σ r.method)) he⟩
    · cases hnil

theorem failsFast_ask (r : Request) (hσ : σ r.method = id) : FailsFast σ (ask r) := by
  apply failsFast_of_ask
  intro w
  rw [run_ask, hσ]
  cases w.answers.next r.method <;> rfl

theorem failsFast_reword (r : Request) {codes : List String} {e : Failure}
    (hσ : σ r.method = Failure.reworded codes e) : FailsFast σ ((ask r).reword codes e) := by
  apply failsFast_of_ask
  intro w
  rw [run_reword, outcome_ask, hσ, run_ask]

/-- The second of two sessions in a row runs only if no request of the first failed, and its
requests find the answers that the first has left. -/
theorem FailsFast.bind (hx : FailsFast σ x) (hf : ∀ a, FailsFast σ (f a)) :
    FailsFast σ (x >>= f) where
  answers w := by
    cases h : (x.run w).outcome with
    | error e =>
      rw [methods_bind_error h, run_bind_error h]
      exact hx.answers w
    | ok a =>
      rw [methods_bind_ok h, run_bind_ok h, Answers.after_append, ← hx.answers]
      exact (hf a).answers _
  stops := by
    intro w before r after e hevents he
    cases h : (x.run w).outcome with
    | error e' =>
      rw [run_bind_error h] at hevents ⊢
      obtain ⟨hafter, hout⟩ := hx.stops hevents he
      rw [h] at hout
      cases hout
      exact ⟨hafter, rfl⟩
    | ok a =>
      rw [run_bind_ok h] at hevents ⊢
      -- a request of the first session came to a result, because the first session did
      have hsecond : ∀ before', before = (x.run w).events ++ before' →
          ((f a).run (x.run w).world).events = before' ++ .requested r :: after →
          after = [] ∧ ((f a).run (x.run w).world).outcome = .error (σ r.method e) := by
        rintro before' rfl hrest
        apply (hf a).stops hrest
        rw [World.replyAfter, hx.answers, Answers.reply_after]
        rwa [World.replyAfter, Event.methods_append, List.count_append] at he
      rcases List.append_eq_append_iff.mp hevents with
        ⟨before', hbefore, hrest⟩ | ⟨rest, hfirst, hrest⟩
      · exact hsecond before' hbefore hrest
      · cases rest with
        | nil => exact hsecond [] (by simpa using hfirst.symm) (by simpa using hrest.symm)
        | cons ev rest =>
          obtain ⟨rfl, -⟩ := List.cons.inj hrest
          have hstop := (hx.stops hfirst he).2
          rw [h] at hstop
          cases hstop

theorem Inquiry.failsFast {S : Set Method} (hx : Inquiry S σ x) : FailsFast σ x := by
  induction hx with
  | pure a => exact failsFast_pure a
  | fail e => exact failsFast_fail e
  | log level origin message => exact (silent_log level origin message).failsFast
  | remaining hm => exact failsFast_of_requests (fun _ => rfl) fun _ => rfl
  | ask r hr hσ => exact failsFast_ask r hσ
  | reword r hr hσ => exact failsFast_reword r hσ
  | bind _ _ ihx ihf => exact ihx.bind ihf

/-- Neither a pause nor a line is a request. -/
theorem Course.failsFast {S : Set Method} (hx : Course S σ x) : FailsFast σ x := by
  induction hx with
  | inquiry hx => exact hx.failsFast
  | print line => exact (silent_print line).failsFast
  | complain line => exact (silent_complain line).failsFast
  | now => exact failsFast_of_requests (fun _ => rfl) fun _ => rfl
  | sleep seconds => exact failsFast_of_requests (fun _ => rfl) fun _ => rfl
  | bind _ _ ihx ihf => exact ihx.bind ihf

end Session

end ClusterLaunch
