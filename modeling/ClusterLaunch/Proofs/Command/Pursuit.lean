import ClusterLaunch.Proofs.Cloud.Agreement
import ClusterLaunch.Proofs.Command.Task

/-! # Tasks that follow a stack

Nothing that a task does before it follows its stack complains or polls, so what it does from there
on decides what it tells about the stack.
-/

namespace ClusterLaunch

open Session

/-- The methods by which a stack is followed. -/
def watching : Set Method := {.describeStacks, .describeStackEvents}

theorem not_mem_watching {m : Method} (h : m ∈ lookups ∨ m = .createStack) : m ∉ watching := by
  rcases h with h | rfl
  · rintro (rfl | rfl) <;> exact h rfl
  · rintro (h | h) <;> cases h

namespace Session

variable {α β : Type}

/-- A session that may come before a stack is followed: it neither follows one nor complains. -/
structure Prepares (x : Session α) : Prop where
  complaints : ∀ w, (x.run w).complaints = []
  methods : ∀ w, ∀ m ∈ (x.run w).methods, m ∉ watching
  answers : ∀ w, ∀ m ∈ watching, (x.run w).world.answers m = w.answers m

variable {x : Session α} {f : α → Session β} {w : World} {a : α}

/-- A session that asks nothing, writes no complaint and leaves the answers alone. -/
theorem prepares_of_silent (hc : ∀ w, (x.run w).complaints = []) (hm : ∀ w, (x.run w).methods = [])
    (ha : ∀ w, (x.run w).world.answers = w.answers) : Prepares x where
  complaints := hc
  methods w m h := by
    rw [hm] at h
    cases h
  answers w m _ := by rw [ha]

theorem prepares_pure (a : α) : Prepares (pure a) :=
  prepares_of_silent (fun _ => rfl) (fun _ => rfl) fun _ => rfl

theorem prepares_print (line : String) : Prepares (print line) :=
  prepares_of_silent (fun _ => rfl) (fun _ => rfl) fun _ => rfl

theorem prepares_log (level : Level) (origin : Origin) (message : String) :
    Prepares (log level origin message) :=
  prepares_of_silent (fun _ => rfl) (fun _ => rfl) fun _ => rfl

theorem prepares_connect (region : String) (profile : Option String) :
    Prepares (connect region profile) :=
  prepares_of_silent (fun _ => rfl) (fun _ => rfl) fun _ => rfl

theorem prepares_ofResult (o : Except Failure α) : Prepares (ofResult o) := by
  cases o <;> exact prepares_of_silent (fun _ => rfl) (fun _ => rfl) fun _ => rfl

theorem Inquiry.prepares {S : Set Method} {σ : Method → Failure → Failure} (hx : Inquiry S σ x)
    (hS : ∀ m ∈ S, m ∉ watching) : Prepares x where
  complaints := hx.complaints
  methods _ _ hm := hS _ (hx.reads.methods hm)
  answers w m hm := by
    rw [hx.failsFast.answers]
    exact Answers.after_apply_of_not_mem fun h => hS m (hx.reads.methods h) hm

theorem Prepares.complaints_bind (hx : Prepares x) (h : (x.run w).outcome = .ok a) :
    ((x >>= f).run w).complaints = ((f a).run (x.run w).world).complaints := by
  rw [complaints_bind_ok h, hx.complaints, List.nil_append]

theorem Prepares.count_eq_zero (hx : Prepares x) {m : Method} (hm : m ∈ watching) (w : World) :
    (x.run w).methods.count m = 0 :=
  List.count_eq_zero.mpr fun h => hx.methods w m h hm

theorem Prepares.count_bind (hx : Prepares x) (h : (x.run w).outcome = .ok a) {m : Method}
    (hm : m ∈ watching) :
    ((x >>= f).run w).methods.count m = ((f a).run (x.run w).world).methods.count m := by
  rw [methods_bind_ok h, List.count_append, hx.count_eq_zero hm, Nat.zero_add]

theorem Prepares.bind (hx : Prepares x) (hf : ∀ a, Prepares (f a)) : Prepares (x >>= f) where
  complaints w := by
    cases h : (x.run w).outcome with
    | error e =>
      rw [run_bind_error h]
      exact hx.complaints w
    | ok a => rw [hx.complaints_bind h, (hf a).complaints]
  methods w m hm := by
    obtain ⟨r, hr, rfl⟩ := List.mem_map.mp hm
    rcases mem_requests_bind hr with hr | ⟨a, -, hr⟩
    · exact hx.methods w _ (List.mem_map_of_mem hr)
    · exact (hf a).methods _ _ (List.mem_map_of_mem hr)
  answers w m hm := by
    cases h : (x.run w).outcome with
    | error e =>
      rw [run_bind_error h]
      exact hx.answers w m hm
    | ok a =>
      rw [run_bind_ok h]
      exact ((hf a).answers _ m hm).trans (hx.answers w m hm)

end Session

theorem prepares_loadConfig (files : Files) (path : Path) : Prepares (loadConfig files path) :=
  (prepares_log _ _ _).bind fun _ => prepares_ofResult _

theorem prepares_requiredTemplate (files : Files) (inputs : Inputs) :
    Prepares (requiredTemplate files inputs) := by
  unfold requiredTemplate
  split
  · exact prepares_ofResult _
  · exact prepares_ofResult (.error _)

theorem prepares_prepare (files : Files) (inputs : Inputs) : Prepares (prepare files inputs) := by
  apply (prepares_loadConfig files inputs.configPath).bind
  intro config
  apply (prepares_requiredTemplate files inputs).bind
  intro template
  apply (prepares_connect _ _).bind
  intro _
  apply Prepares.bind
  · exact (prepares_print _).bind fun _ => (prepares_print _).bind fun _ =>
      (prepares_print _).bind fun _ => prepares_print _
  intro _
  apply (prepares_print _).bind
  intro _
  apply ((inquiry_preflight config).prepares fun m hm => not_mem_watching (.inl hm)).bind
  intro _
  exact (prepares_print _).bind fun _ => prepares_pure _

theorem prepares_submit (config : Config) (template : String) :
    Prepares (submit config template) := by
  have hcreate : Inquiry {.createStack} (fun _ => id) (createStack config template) :=
    .bind (.log _ _ _) fun _ => .bind (.ask (.createStack _) rfl rfl) fun _ => .pure _
  apply (prepares_print _).bind
  intro _
  apply (hcreate.prepares fun m hm => not_mem_watching (.inr hm)).bind
  intro handle
  exact (prepares_print _).bind fun _ => (prepares_print _).bind fun _ => prepares_pure handle

/-- Follow a stack and end with what became of it. -/
def pursue (plan : ProvisionPlan) (handle : String) : Session ExitStatus := do
  finish (← follow plan handle)

/-- From some point on, a run is that of a session that follows a stack. -/
structure Run.Pursues (r : Run ExitStatus) (w : World) (plan : ProvisionPlan) (handle : String)
    (v : World) : Prop where
  outcome : r.outcome = ((pursue plan handle).run v).outcome
  complaints : r.complaints = ((pursue plan handle).run v).complaints
  polls : r.methods.count .describeStacks =
    ((pursue plan handle).run v).methods.count .describeStacks
  answers : ∀ m ∈ watching, v.answers m = w.answers m

section Provision

variable {files : Files} {inputs : Inputs} {w : World} {config : Config} {template handle : String}

/-- A task that has submitted its stack follows it. -/
theorem pursues_of_submit (hdry : inputs.dryRun = false)
    (hprepare : ((prepare files inputs).run w).outcome = .ok (config, template))
    (hsubmit : ((submit config template).run ((prepare files inputs).run w).world).outcome =
      .ok handle) :
    ∃ v, ((provisionTask files inputs).run w).Pursues w (inputs.plan template) handle v := by
  have hp := prepares_prepare files inputs
  have hs := prepares_submit config template
  rw [provisionTask_eq]
  refine ⟨_, ?_, ?_, ?_, fun m hm => (hs.answers _ m hm).trans (hp.answers w m hm)⟩
  · rw [outcome_bind, hprepare, ok_bind]
    simp only [hdry, Bool.false_eq_true, if_false]
    rw [outcome_bind, hsubmit]
    rfl
  · rw [hp.complaints_bind hprepare]
    simp only [hdry, Bool.false_eq_true, if_false]
    exact hs.complaints_bind hsubmit
  · rw [hp.count_bind hprepare (.inl rfl)]
    simp only [hdry, Bool.false_eq_true, if_false]
    exact hs.count_bind hsubmit (.inl rfl)

/-- Only a task that follows its stack polls it. -/
theorem exists_pursues (h : 0 < ((provisionTask files inputs).run w).methods.count .describeStacks) :
    ∃ template handle v,
      ((provisionTask files inputs).run w).Pursues w (inputs.plan template) handle v := by
  have hp := prepares_prepare files inputs
  rw [provisionTask_eq] at h
  -- a task that stops before it has submitted its stack has not polled
  cases hprepare : ((prepare files inputs).run w).outcome with
  | error e =>
    rw [methods_bind_error hprepare, hp.count_eq_zero (.inl rfl)] at h
    cases h
  | ok prepared =>
    obtain ⟨config, template⟩ := prepared
    rw [hp.count_bind hprepare (.inl rfl)] at h
    cases hdry : inputs.dryRun with
    | true =>
      simp only [hdry, if_true] at h
      cases h
    | false =>
      simp only [hdry, Bool.false_eq_true, if_false] at h
      have hs := prepares_submit config template
      cases hsubmit : ((submit config template).run
          ((prepare files inputs).run w).world).outcome with
      | error e =>
        rw [methods_bind_error hsubmit, hs.count_eq_zero (.inl rfl)] at h
        cases h
      | ok handle => exact ⟨template, handle, pursues_of_submit hdry hprepare hsubmit⟩

end Provision

section Follow

variable {plan : ProvisionPlan} {handle : String} {w : World} {n : ℕ}

theorem follows_conclude (handle : String) (status : StackStatus) :
    (conclude handle status).Follows (1 + repeated .describeStackEvents) := by
  unfold conclude
  split
  · refine Follows.mono ?_ le_self_add
    exact (silent_print _).follows_bind (follows_pure _)
  · refine Follows.mono ?_ le_add_self
    exact (follows_describeFailure handle).bind_silent fun messages =>
      (silent_reportCauses status messages).follows_bind (follows_pure _)

theorem requests_finish (result : ProvisionResult) (w : World) :
    ((finish result).run w).requests = [] := by
  unfold finish
  split <;> rfl

/-- All polls of a run that follows a stack are those of its wait. -/
theorem polls_pursue (h : Polls ((waitForStack handle plan.pollInterval plan.waitLimit).run w)
    handle plan.pollInterval plan.waitLimit w n) :
    ((pursue plan handle).run w).methods.count .describeStacks = n + 1 := by
  have hconclude : ∀ status v,
      ((conclude handle status).run v).methods.count .describeStacks = 0 := by
    intro status v
    refine List.count_eq_zero.mpr fun hm => ?_
    obtain ⟨word, hword | hword, hin⟩ := (follows_conclude handle status).exists_mem hm
    · cases hword
      cases hin
    · cases eq_of_mem_repeated hword hin
  have hwait : ((waitForStack handle plan.pollInterval plan.waitLimit).run w).methods =
      List.replicate (n + 1) .describeStacks := by
    rw [Run.methods, requests_wait h, List.map_replicate]
  rw [pursue, Run.methods, requests_bind_of_nil requests_finish, ← Run.methods, follow]
  cases hstatus : ((waitForStack handle plan.pollInterval plan.waitLimit).run w).outcome with
  | error e => rw [methods_bind_error hstatus, hwait, List.count_replicate_self]
  | ok status =>
    rw [methods_bind_ok hstatus, List.count_append, hwait, List.count_replicate_self, hconclude,
      Nat.add_zero]

end Follow

end ClusterLaunch
