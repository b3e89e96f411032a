import ClusterLaunch.Proofs.Preflight.Requests
import ClusterLaunch.Proofs.Stack.Polling
import ClusterLaunch.Provision

/-! # The calls of a provisioning run

A run asks for the live state, submits one stack unless it is a dry run, polls it, and reads the
events of a stack that failed. Nothing that happens later leads to a second stack.
-/

namespace ClusterLaunch

open Session Computability

/-- An answer reports a stack that has stopped without being complete. -/
def ReportsFailure (reply : Except Failure (List ReportedStack)) : Prop :=
  ∃ report rest, reply = .ok (report :: rest) ∧
    ¬ StackStatus.pendingMark.toList <:+ (report.status.getD "").toList ∧
    report.status.getD "" ≠ "CREATE_COMPLETE"

/-- Polls of which the last is answered by a failure. -/
def failedPolls (a : Answers) : Language Method :=
  {word | ∃ n, ReportsFailure (a.reply .describeStacks n) ∧
    word = List.replicate (n + 1) .describeStacks}

/-- The requests after a submission: polls, and pages of events if the last poll is answered by a
failure. -/
def waitWords (a : Answers) : Language Method :=
  repeated .describeStacks + failedPolls a * repeated .describeStackEvents

def provisionWords (config : Config) (plan : ProvisionPlan) (a : Answers) : Language Method :=
  preflightWords config * if plan.dryRun then 1 else {[.createStack]} * waitWords a

theorem waitWords_congr {a b : Answers} (h : a .describeStacks = b .describeStacks) :
    waitWords a = waitWords b := by
  unfold waitWords failedPolls Answers.reply
  rw [h]

theorem createStack_not_mem_waitWords {a : Answers} {word : List Method}
    (hword : word ∈ waitWords a) : Method.createStack ∉ word := by
  intro hm
  rcases hword with hword | hword
  · cases eq_of_mem_repeated hword hm
  · rcases exists_mem_of_mem_mul hword hm with ⟨_, ⟨n, -, rfl⟩, hm⟩ | ⟨_, hword, hm⟩
    · cases List.eq_of_mem_replicate hm
    · cases eq_of_mem_repeated hword hm

theorem requests_pollEvents (handle : String) (interval : Float) (n : ℕ) :
    (pollEvents handle interval n).filterMap Event.request? =
      List.replicate (n + 1) (.describeStacks handle) := by
  induction n with
  | zero => rfl
  | succ n ih =>
    rw [List.replicate_succ, ← ih]
    rfl

theorem Run.requests_eq {α : Type} (r : Run α) :
    r.requests = (r.events.filter Event.isAction).filterMap Event.request? := by
  rw [Run.requests, List.filterMap_filter]
  congr 1
  funext e
  cases e <;> rfl

theorem Polls.follows {r : Run StackStatus} {handle : String} {interval limit : Float} {w : World}
    {n : ℕ} (h : Polls r handle interval limit w n) :
    r.Follows w {List.replicate (n + 1) .describeStacks} := by
  have hm : r.methods = List.replicate (n + 1) .describeStacks := by
    rw [Run.methods, Run.requests_eq, h.events, requests_pollEvents, List.map_replicate]
  exact ⟨⟨_, rfl, by rw [hm]⟩, fun _ _ => hm, by rw [hm]; exact h.answers⟩

theorem reportsFailure_of_waitVerdict {handle : String} {limit : Float}
    {reply : Except Failure (List ReportedStack)} {status : StackStatus}
    (h : waitVerdict handle limit reply = .ok status) (hs : ¬ status.isSuccess = true) :
    ReportsFailure reply := by
  obtain ⟨report, rest, rfl, hterminal, rfl⟩ := waitVerdict_eq_ok_iff.mp h
  exact ⟨report, rest, rfl, isTerminal_eq_true_iff.mp hterminal,
    fun hcode => hs (decide_eq_true hcode)⟩

theorem follows_describeFailure (handle : String) :
    (describeFailure handle).Follows (repeated .describeStackEvents) := by
  have hfetch : (StackEvent.fetch handle).Follows (repeated .describeStackEvents) :=
    (follows_allPages (fun token => fetches_ask (.describeStackEvents handle token))
      none).bind_silent fun pages => follows_pure _
  exact hfetch.bind_silent fun events => (silent_log _ _ _).follows_bind (follows_pure _)

theorem silent_reportCauses (status : StackStatus) (messages : List String) :
    (reportCauses status messages).Silent := by
  refine (silent_complain _).bind ?_
  split
  · exact (silent_complain _).bind (silent_forM silent_complain messages)
  · exact silent_pure

/-- What comes after a submission asks along the words that the answers allow. -/
theorem follows_wait {handle : String} {interval limit : Float} {w : World}
    {f : StackStatus → Session ProvisionResult}
    (hsuccess : ∀ status, status.isSuccess = true → (f status).Follows 1)
    (hfailure : ∀ status, ¬ status.isSuccess = true →
      (f status).Follows (repeated .describeStackEvents)) :
    ((waitForStack handle interval limit >>= f).run w).Follows w (waitWords w.answers) := by
  obtain ⟨n, h⟩ := exists_polls handle interval limit w
  have hpolls : ({List.replicate (n + 1) .describeStacks} : Language Method) ≤
      repeated .describeStacks := by
    rintro _ rfl
    exact replicate_mem_repeated _ n
  by_cases hfail : ReportsFailure (w.answers.reply .describeStacks n)
  · refine (follows_bind_run h.follows (K := 1 + repeated .describeStackEvents) ?_ ?_).mono ?_
    · intro status _
      by_cases hs : status.isSuccess = true
      · exact (hsuccess status hs _).mono le_self_add
      · exact (hfailure status hs _).mono le_add_self
    · exact ⟨[], .inl rfl⟩
    · rw [mul_add, mul_one]
      refine add_le_add hpolls ?_
      gcongr
      rintro _ rfl
      exact ⟨n, hfail, rfl⟩
  · refine (follows_bind_run h.follows (K := 1) ?_ ⟨[], rfl⟩).mono ?_
    · intro status hstatus
      rw [h.outcome] at hstatus
      refine hsuccess status (not_not.mp fun hs => hfail ?_) _
      exact reportsFailure_of_waitVerdict hstatus hs
    · rw [mul_one]
      exact hpolls.trans le_self_add

theorem follows_createStack (config : Config) (template : String) :
    (createStack config template).Follows {[.createStack]} :=
  (silent_log _ _ _).follows_bind
    ((follows_ask (.createStack _)).bind_silent fun _ => follows_pure _)

theorem requests_createStack (config : Config) (template : String) (w : World) :
    ((createStack config template).run w).requests =
      [.createStack (.ofConfig config template)] := by
  rw [createStack, (silent_log _ _ _).requests_bind, requests_bind_of_nil fun _ _ => rfl, run_ask]
  rfl

theorem methods_createStack (config : Config) (template : String) (w : World) :
    ((createStack config template).run w).methods = [.createStack] :=
  congrArg (List.map Request.method) (requests_createStack config template w)

theorem follows_launch (config : Config) (plan : ProvisionPlan) (w : World) :
    ((launch config plan).run w).Follows w ({[.createStack]} * waitWords w.answers) := by
  have hwords : waitWords ((createStack config plan.template).run w).world.answers =
      waitWords w.answers :=
    waitWords_congr ((follows_createStack config plan.template).answers_eq
      (by rintro _ rfl; decide))
  refine (silent_print _).follows_bind_run (follows_bind_run (follows_createStack _ _ w) ?_ ?_)
  · intro id _
    refine (silent_print _).follows_bind_run ((silent_print _).follows_bind_run ?_)
    rw [← hwords]
    refine follows_wait (fun status hs => ?_) (fun status hs => ?_)
    · rw [if_pos hs]
      exact (silent_print _).follows_bind (follows_pure _)
    · rw [if_neg hs]
      exact (follows_describeFailure id).bind_silent fun messages =>
        (silent_reportCauses status messages).follows_bind (follows_pure _)
  · exact ⟨_, .inl (replicate_mem_repeated _ 0)⟩

theorem silent_announce (config : Config) (plan : ProvisionPlan) :
    (announce config plan).Silent :=
  (silent_print _).bind ((silent_print _).bind ((silent_print _).bind (silent_print _)))

def proceed (config : Config) (plan : ProvisionPlan) : Session ProvisionResult := do
  print "Preflight checks passed."
  if plan.dryRun then
    print "\nDry run mode - skipping stack creation"
    return ⟨true, none, none, []⟩
  else
    launch config plan

theorem provision_eq (config : Config) (plan : ProvisionPlan) :
    provision config plan = (do
      announce config plan
      print "\n--- Running preflight checks ---"
      preflight config
      proceed config plan) := rfl

theorem follows_proceed (config : Config) (plan : ProvisionPlan) (w : World) :
    ((proceed config plan).run w).Follows w
      (if plan.dryRun then 1 else {[.createStack]} * waitWords w.answers) := by
  refine (silent_print _).follows_bind_run ?_
  by_cases hdry : plan.dryRun = true
  · rw [if_pos hdry, if_pos hdry]
    exact (silent_print _).follows_bind_run (follows_pure _ w)
  · rw [if_neg hdry, if_neg hdry]
    exact follows_launch config plan w

theorem follows_provision (config : Config) (plan : ProvisionPlan) (w : World) :
    ((provision config plan).run w).Follows w (provisionWords config plan w.answers) := by
  have hkept : waitWords ((preflight config).run w).world.answers = waitWords w.answers :=
    waitWords_congr ((follows_preflight config).answers_eq fun word hword hm =>
      service_ne_of_mem_preflightWords hword hm rfl)
  rw [provision_eq]
  refine (silent_announce config plan).follows_bind_run
    ((silent_print _).follows_bind_run (follows_bind_run (follows_preflight config w) ?_ ?_))
  · intro _ _
    rw [← hkept]
    exact follows_proceed config plan _
  · obtain ⟨word, hword, -⟩ := (follows_proceed config plan w).begins
    exact ⟨word, hword⟩

/-- The requests of a launch begin with its only submission. -/
theorem methods_launch (config : Config) (plan : ProvisionPlan) (w : World) :
    ∃ after, ((launch config plan).run w).methods = .createStack :: after ∧
      Method.createStack ∉ after := by
  obtain ⟨word, hword, hle⟩ := (follows_launch config plan w).begins
  obtain ⟨_, rfl, rest, hrest, rfl⟩ := Language.mem_mul.mp hword
  have hfirst : [.createStack] <+: ((launch config plan).run w).methods := by
    rw [← methods_createStack config plan.template w]
    exact methods_prefix_bind (createStack config plan.template) _ w
  obtain ⟨after, hafter⟩ := hfirst
  rw [← hafter] at hle ⊢
  refine ⟨after, rfl, fun hm => createStack_not_mem_waitWords hrest ?_⟩
  exact (List.cons_prefix_cons.mp hle).2.subset hm

theorem methods_provision (config : Config) (plan : ProvisionPlan) (w : World) :
    ((provision config plan).run w).methods = ((preflight config).run w).methods ∨
      plan.dryRun = false ∧ ((preflight config).run w).outcome = .ok () ∧
        ((provision config plan).run w).methods = ((preflight config).run w).methods ++
          ((launch config plan).run ((preflight config).run w).world).methods := by
  rw [provision_eq, (silent_announce config plan).methods_bind, (silent_print _).methods_bind]
  cases h : ((preflight config).run w).outcome with
  | error e => exact .inl (methods_bind_error h)
  | ok u =>
    rw [methods_bind_ok h, proceed, (silent_print _).methods_bind]
    cases hdry : plan.dryRun with
    | true =>
      rw [if_pos rfl, (silent_print _).methods_bind]
      exact .inl (List.append_nil _)
    | false =>
      rw [if_neg Bool.false_ne_true]
      exact .inr ⟨rfl, rfl, rfl⟩

theorem service_ne_of_mem_preflight {config : Config} {w : World} {m : Method}
    (hm : m ∈ ((preflight config).run w).methods) : m.service ≠ .cloudformation := by
  obtain ⟨word, hword, hin⟩ := (follows_preflight config).exists_mem hm
  exact service_ne_of_mem_preflightWords hword hin

/-- Before the submission stands the preflight, and after it no other submission. -/
theorem createStack_split {config : Config} {plan : ProvisionPlan} {w : World}
    {before after : List Method}
    (h : ((provision config plan).run w).methods = before ++ .createStack :: after) :
    plan.dryRun = false ∧ ((preflight config).run w).outcome = .ok () ∧
      before = ((preflight config).run w).methods ∧
      (∀ m ∈ before, m.service ≠ .cloudformation) ∧ Method.createStack ∉ after := by
  have hnot : Method.createStack ∉ ((preflight config).run w).methods :=
    fun hm => service_ne_of_mem_preflight hm rfl
  rcases methods_provision config plan w with hp | ⟨hdry, hok, hp⟩
  · rw [← hp, h] at hnot
    exact absurd (List.mem_append_right before List.mem_cons_self) hnot
  · obtain ⟨rest, hlaunch, hrest⟩ := methods_launch config plan ((preflight config).run w).world
    rw [hlaunch, h] at hp
    obtain ⟨hbefore, -, hafter⟩ := (List.append_cons_inj_of_notMem hnot hrest).mp hp.symm
    refine ⟨hdry, hok, hbefore.symm, fun m hm => ?_, hafter ▸ hrest⟩
    exact service_ne_of_mem_preflight (hbefore.symm ▸ hm)

/-- No other request to the service of the stacks comes before the submission. -/
theorem createStack_mem_of_split {config : Config} {plan : ProvisionPlan} {w : World}
    {before after : List Method} {m : Method}
    (h : ((provision config plan).run w).methods = before ++ m :: after)
    (hm : m.service = .cloudformation) : m = .createStack ∨ Method.createStack ∈ before := by
  by_cases hcreate : Method.createStack ∈ before ++ m :: after
  · rcases List.mem_append.mp hcreate with hin | hin
    · exact .inr hin
    rcases List.mem_cons.mp hin with heq | hin
    · exact .inl heq.symm
    -- a submission that comes later has only requests of the preflight before it
    obtain ⟨s, t, rfl⟩ := List.append_of_mem hin
    have h' : ((provision config plan).run w).methods = (before ++ m :: s) ++ .createStack :: t :=
      h.trans (by simp)
    obtain ⟨-, -, -, hbefore, -⟩ := createStack_split h'
    exact absurd hm (hbefore m (List.mem_append_right before List.mem_cons_self))
  · rcases methods_provision config plan w with hp | ⟨-, -, hp⟩
    · have hin : m ∈ ((preflight config).run w).methods := by
        rw [← hp, h]
        exact List.mem_append_right before List.mem_cons_self
      exact absurd hm (service_ne_of_mem_preflight hin)
    · obtain ⟨rest, hlaunch, -⟩ := methods_launch config plan ((preflight config).run w).world
      rw [← h, hp, hlaunch] at hcreate
      exact absurd (List.mem_append_right _ List.mem_cons_self) hcreate

/-- The requests of a run begin a word of the language, and are a word of it if nothing failed. The
only submission comes after a preflight that succeeded, never in a dry run; no other request to
its service comes before it and no second submission after it. -/
theorem provision_calls (config : Config) (plan : ProvisionPlan) (w : World) :
    let calls := ((provision config plan).run w).methods
    (∃ word ∈ provisionWords config plan w.answers, calls <+: word) ∧
    (∀ result, ((provision config plan).run w).outcome = .ok result →
      calls ∈ provisionWords config plan w.answers) ∧
    (∀ before after : List Method, calls = before ++ .createStack :: after →
      plan.dryRun = false ∧ ((preflight config).run w).outcome = .ok () ∧
        before = ((preflight config).run w).methods ∧
        (∀ m ∈ before, m.service ≠ .cloudformation) ∧ Method.createStack ∉ after) ∧
    ∀ (before : List Method) m after, calls = before ++ m :: after → m.service = .cloudformation →
      m = .createStack ∨ Method.createStack ∈ before := by
  have h := follows_provision config plan w
  exact ⟨h.begins, h.ends, fun _ _ => createStack_split, fun _ _ _ => createStack_mem_of_split⟩

end ClusterLaunch
