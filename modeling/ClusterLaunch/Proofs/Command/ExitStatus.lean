import ClusterLaunch.Proofs.Command.Agreement
import ClusterLaunch.Proofs.Command.Pursuit

/-! # The exit status of a command

Status 2 says that a service could not be reached, status 0 that the command did what it is for, and
status 1 everything else. What has failed before the services are needed has not touched them.
-/

namespace ClusterLaunch

open Session

namespace Failure

/-- A failure on the way to a service: the service could not be asked, or it turned a request down
with one of the codes of passing failures or with the status of a failure of its own. -/
inductive Transient : Failure → Prop
  | disrupted (d : Disruption) : Transient (.disrupted d)
  | unreached (message : String) : Transient (.unreached message)
  | code {r : Rejection} {code : String} (hr : r.code = .given code) (h : code ∈ transientCodes) :
      Transient (.rejected r)
  | status {r : Rejection} (h : 500 ≤ r.status) : Transient (.rejected r)

/-- A failure that the tools know: of one of the families, or of a request to a service. -/
inductive Reportable : Failure → Prop
  | known {e : Failure} {family : Family} (h : e.family? = some family) : Reportable e
  | rejected (r : Rejection) : Reportable (.rejected r)
  | disrupted (d : Disruption) : Reportable (.disrupted d)
  | unreached (message : String) : Reportable (.unreached message)

theorem isTransport_iff {e : Failure} : e.isTransport = true ↔ e.Transient := by
  constructor
  · intro h
    cases e with
    | disrupted d => exact .disrupted d
    | unreached message => exact .unreached message
    | rejected r =>
      rcases Bool.or_eq_true_iff.mp h with h | h
      · obtain ⟨code, hmem, hcode⟩ := hasCode_iff.mp h
        exact .code hcode hmem
      · exact .status (of_decide_eq_true h)
    | _ => cases h
  · rintro (d | message | ⟨hcode, hmem⟩ | h)
    · rfl
    · rfl
    · exact Bool.or_eq_true_iff.mpr (.inl (hasCode_iff.mpr ⟨_, hmem, hcode⟩))
    · exact Bool.or_eq_true_iff.mpr (.inr (decide_eq_true h))

theorem isReported_iff {e : Failure} : e.isReported = true ↔ e.Reportable := by
  have hknown : e.family?.isSome = true → e.Reportable := by
    intro h
    obtain ⟨family, hfamily⟩ := Option.isSome_iff_exists.mp h
    exact .known hfamily
  constructor
  · intro h
    cases e with
    | rejected r => exact .rejected r
    | disrupted d => exact .disrupted d
    | unreached message => exact .unreached message
    | _ => exact hknown h
  · rintro (h | r | d | message)
    · cases e with
      | rejected _ | disrupted _ | unreached _ => rfl
      | _ => exact Option.isSome_iff_exists.mpr ⟨_, h⟩
    · rfl
    · rfl
    · rfl

/-- A failure of one of the families is none on the way to a service. -/
theorem not_transient_of_family {e : Failure} {family : Family} (h : e.family? = some family) :
    ¬ e.Transient := by
  rintro (_ | _ | _ | _) <;> cases h

theorem exitStatus_of_not_transient {e : Failure} (h : ¬ e.Transient) : e.exitStatus = .failure :=
  if_neg (mt isTransport_iff.mp h)

end Failure

/-- The configuration can be loaded, and the preflight passes. -/
def Cleared (files : Files) (inputs : Inputs) (w : World) : Prop :=
  ∃ config, Config.load files inputs.configPath = .ok config ∧
    ((preflight config).run w).outcome = .ok ()

/-- The last poll of a run reports a stack. -/
def Run.Observed {α : Type} (r : Run α) (a : Answers) (report : ReportedStack) : Prop :=
  ∃ n others, r.methods.count .describeStacks = n + 1 ∧
    a.reply .describeStacks n = .ok (report :: others)

/-- A run has done what its command is for. -/
inductive Command.Achieved (files : Files) (inputs : Inputs) (w : World) (r : Run ExitStatus) :
    Command → Prop
  | validated (hcleared : Cleared files inputs w)
      (htemplate : ∀ path, inputs.templatePath = some path → ∃ template summary,
        readText files .template path = .ok template ∧
          w.answers.next .validateTemplate = .ok summary) : Achieved files inputs w r .validate
  | rehearsed (hdry : inputs.dryRun = true) (hcleared : Cleared files inputs w) :
      Achieved files inputs w r .provision
  | completed {report : ReportedStack} (hreport : r.Observed w.answers report)
      (hstatus : report.status = some "CREATE_COMPLETE") : Achieved files inputs w r .provision

section Beginning

variable {files : Files} {inputs : Inputs} {w : World}

/-! What follows on a file, or on making clients, finds the world as it was. -/

theorem outcome_loadConfig_bind {α : Type} (path : Path) (f : Config → Session α) :
    ((loadConfig files path >>= f).run w).outcome =
      (Config.load files path).mapError .config >>= fun config =>
        ((f config).run w).outcome := by
  rw [outcome_bind, run_loadConfig]

theorem outcome_readTemplate_bind {α : Type} (path : Path) (f : String → Session α) :
    ((readTemplate files path >>= f).run w).outcome =
      (readText files .template path).mapError .config >>= fun template =>
        ((f template).run w).outcome := by
  rw [outcome_bind, readTemplate, run_ofResult]

theorem outcome_connect_bind {α : Type} (region : String) (profile : Option String)
    (f : Unit → Session α) :
    ((connect region profile >>= f).run w).outcome =
      w.connection.elim (.ok ()) .error >>= fun u => ((f u).run w).outcome := by
  rw [outcome_bind, run_connect]

/-- A configuration that cannot be loaded is the end of a task. -/
theorem run_task_of_load_error {e : ConfigError} (c : Command)
    (h : Config.load files inputs.configPath = .error e) :
    (c.task files inputs).run w = ⟨.error (.config e), [loading inputs.configPath], w⟩ := by
  have hload : ((loadConfig files inputs.configPath).run w).outcome = .error (.config e) := by
    rw [run_loadConfig, h]
    rfl
  cases c <;> exact (run_bind_error hload).trans (by rw [run_loadConfig])

/-- So is, for the command that needs it, a template that cannot be read. -/
theorem run_provisionTask_of_template_error {config : Config} {path : Path} {e : ConfigError}
    (hload : Config.load files inputs.configPath = .ok config)
    (hpath : inputs.templatePath = some path) (h : readText files .template path = .error e) :
    (provisionTask files inputs).run w =
      ⟨.error (.config e), [loading inputs.configPath], w⟩ := by
  have hrun : ∀ v, (requiredTemplate files inputs).run v = ⟨.error (.config e), [], v⟩ := by
    intro v
    rw [requiredTemplate, hpath]
    dsimp only
    rw [readTemplate, run_ofResult, h]
    rfl
  have hconfig : ((loadConfig files inputs.configPath).run w).outcome = .ok config := by
    rw [run_loadConfig, hload]
    rfl
  rw [provisionTask, run_bind_ok hconfig, run_bind_error (congrArg Run.outcome (hrun _)), hrun,
    run_loadConfig]
  rfl

end Beginning

section Success

variable {files : Files} {inputs : Inputs} {w : World} {s : ExitStatus}

theorem outcome_validateTemplate (template : String) (w : World) :
    ((validateTemplate template).run w).outcome =
      (w.answers.next .validateTemplate).map fun summary => summary.description.getD "" := by
  rw [validateTemplate, outcome_bind, outcome_ask]
  cases w.answers.next .validateTemplate with
  | error e => rfl
  | ok summary =>
    rw [ok_bind]
    dsimp only
    split <;> rfl

/-- What becomes of a template, if there is one: it is read and checked. -/
def templateVerdict (files : Files) (a : Answers) : Option Path → Except Failure Unit
  | none => .ok ()
  | some path => do
    let _ ← (readText files .template path).mapError Failure.config
    let _ ← a.next .validateTemplate
    return ()

theorem outcome_checkTemplate (files : Files) (path : Option Path) (w : World) :
    ((checkTemplate files path).run w).outcome = templateVerdict files w.answers path := by
  cases path with
  | none => rfl
  | some path =>
    rw [checkTemplate, outcome_readTemplate_bind, templateVerdict]
    cases readText files .template path with
    | error e => rfl
    | ok template =>
      rw [mapError_ok, ok_bind, ok_bind, outcome_bind, outcome_validateTemplate]
      cases w.answers.next .validateTemplate <;> rfl

theorem templateVerdict_congr {a b : Answers} (files : Files) (path : Option Path)
    (h : a .validateTemplate = b .validateTemplate) :
    templateVerdict files a path = templateVerdict files b path := by
  cases path with
  | none => rfl
  | some path => rw [templateVerdict, templateVerdict, Answers.next_congr h]

def validateVerdict (files : Files) (inputs : Inputs) (w : World) : Except Failure ExitStatus := do
  let config ← (Config.load files inputs.configPath).mapError Failure.config
  w.connection.elim (.ok ()) .error
  preflightVerdict config w.answers
  templateVerdict files w.answers inputs.templatePath
  return .success

theorem outcome_validateTask (files : Files) (inputs : Inputs) (w : World) :
    ((validateTask files inputs).run w).outcome = validateVerdict files inputs w := by
  rw [validateTask, outcome_loadConfig_bind, validateVerdict]
  congr 1
  funext config
  rw [outcome_connect_bind]
  congr 1
  funext _
  -- the preflight asks nothing of the service that checks the template
  have hkept : ((preflight config).run w).world.answers .validateTemplate =
      w.answers .validateTemplate :=
    (follows_preflight config).answers_eq fun _ hword hin =>
      service_ne_of_mem_preflightWords hword hin rfl
  rw [(silent_print _).outcome_bind, outcome_bind, outcome_preflight]
  congr 1
  funext _
  rw [outcome_bind, outcome_checkTemplate, templateVerdict_congr files _ hkept]
  rfl

/-- A validation that raises nothing has done all that it is for. -/
theorem achieved_of_validateTask (h : ((validateTask files inputs).run w).outcome = .ok s)
    (r : Run ExitStatus) : s = .success ∧ Command.Achieved files inputs w r .validate := by
  rw [outcome_validateTask] at h
  obtain ⟨config, hload, h⟩ := bind_eq_ok_iff.mp h
  obtain ⟨_, -, h⟩ := bind_eq_ok_iff.mp h
  obtain ⟨_, hpreflight, h⟩ := bind_eq_ok_iff.mp h
  obtain ⟨_, htemplate, h⟩ := bind_eq_ok_iff.mp h
  cases h
  rw [← outcome_preflight] at hpreflight
  refine ⟨rfl, .validated ⟨config, mapError_eq_ok_iff.mp hload, hpreflight⟩ fun path hpath => ?_⟩
  rw [hpath] at htemplate
  obtain ⟨template, hread, htemplate⟩ := bind_eq_ok_iff.mp htemplate
  obtain ⟨summary, hsummary, -⟩ := bind_eq_ok_iff.mp htemplate
  exact ⟨template, summary, mapError_eq_ok_iff.mp hread, hsummary⟩

/-- What was loaded and checked when the stack is to be submitted. -/
theorem cleared_of_prepare {config : Config} {template : String}
    (h : ((prepare files inputs).run w).outcome = .ok (config, template)) :
    Cleared files inputs w := by
  rw [prepare, outcome_loadConfig_bind] at h
  obtain ⟨config', hload, h⟩ := bind_eq_ok_iff.mp h
  obtain ⟨template', htemplate, h⟩ := outcome_bind_eq_ok_iff.mp h
  -- reading the template leaves the world in which the preflight is run
  have hworld : ((requiredTemplate files inputs).run w).world = w := by
    unfold requiredTemplate
    split
    · rw [readTemplate, run_ofResult]
    · rfl
  rw [hworld, outcome_connect_bind] at h
  obtain ⟨_, -, h⟩ := bind_eq_ok_iff.mp h
  rw [(silent_announce _ _).outcome_bind, (silent_print _).outcome_bind] at h
  obtain ⟨_, hpreflight, -⟩ := outcome_bind_eq_ok_iff.mp h
  exact ⟨config', mapError_eq_ok_iff.mp hload, hpreflight⟩

theorem finish_eq_ok {result : ProvisionResult} (h : ((finish result).run w).outcome = .ok s) :
    s ≠ .transport ∧ (s = .success ↔ result.success = true) := by
  unfold finish at h
  split at h
  · rename_i hsuccess
    rw [(silent_print _).outcome_bind] at h
    cases h
    exact ⟨nofun, fun _ => hsuccess, fun _ => rfl⟩
  · rename_i hfailure
    cases h
    exact ⟨nofun, nofun, fun hsuccess => absurd hsuccess hfailure⟩

/-- A provisioning run that raises nothing succeeds if it was a dry run or its last poll reported a
complete stack, and fails otherwise. -/
theorem achieved_of_provisionTask (h : ((provisionTask files inputs).run w).outcome = .ok s) :
    s ≠ .transport ∧ (s = .success ↔
      Command.Achieved files inputs w ((provisionTask files inputs).run w) .provision) := by
  have htask := h
  rw [provisionTask_eq] at h
  obtain ⟨⟨config, template⟩, hprepare, h⟩ := outcome_bind_eq_ok_iff.mp h
  have hcleared := cleared_of_prepare hprepare
  cases hdry : inputs.dryRun with
  | true =>
    simp only [hdry, if_true] at h
    rw [(silent_print _).outcome_bind] at h
    obtain ⟨hs, hsuccess⟩ := finish_eq_ok h
    exact ⟨hs, iff_of_true (hsuccess.mpr rfl) (.rehearsed hdry hcleared)⟩
  | false =>
    simp only [hdry, Bool.false_eq_true, if_false] at h
    obtain ⟨handle, hsubmit, -⟩ := outcome_bind_eq_ok_iff.mp h
    obtain ⟨v, hpursues⟩ := pursues_of_submit hdry hprepare hsubmit
    obtain ⟨result, hfollow, hfinish⟩ :=
      outcome_bind_eq_ok_iff.mp (hpursues.outcome.symm.trans htask)
    obtain ⟨hs, hsuccess⟩ := finish_eq_ok hfinish
    obtain ⟨n, report, hsettled⟩ := follow_settled hfollow
    obtain ⟨others, hreply⟩ := hsettled.reported
    have hpolls : ((provisionTask files inputs).run w).methods.count .describeStacks = n + 1 := by
      rw [hpursues.polls, pursue, Run.methods, requests_bind_of_nil requests_finish]
      exact hsettled.polls
    rw [Answers.reply_congr (hpursues.answers _ (.inl rfl))] at hreply
    refine ⟨hs, hsuccess.trans (hsettled.success.trans ⟨fun hstatus => ?_, fun hachieved => ?_⟩)⟩
    · exact .completed ⟨n, others, hpolls, hreply⟩ hstatus
    · -- the number of polls says which answer was the last
      obtain _ | ⟨hdry', -⟩ | ⟨⟨n', others', hpolls', hreply'⟩, hstatus⟩ := hachieved
      · rw [hdry] at hdry'
        cases hdry'
      · obtain rfl : n' = n := Nat.succ.inj (hpolls'.symm.trans hpolls)
        cases hreply'.symm.trans hreply
        exact hstatus

end Success

structure Run.Ends (run task : Run ExitStatus) (achieved : Prop) (status : ExitStatus) : Prop where
  outcome : run.outcome = .ok status
  transport : status.code = 2 ↔ ∃ e, task.outcome = .error e ∧ e.Transient
  success : status.code = 0 ↔ (∃ s, task.outcome = .ok s) ∧ achieved
  failure : status.code = 1 ↔ (¬ ∃ e, task.outcome = .error e ∧ e.Transient) ∧
    ¬ ((∃ s, task.outcome = .ok s) ∧ achieved)
  /-- A task that does not fail is all that the run does. -/
  silent : ∀ s, task.outcome = .ok s → run.events = task.events
  /-- A failure is reported in the last line. -/
  reported : ∀ e, task.outcome = .error e → ∃ heading,
    run.events = task.events ++ [.complained (heading ++ e.message)] ∧
      (e.Transient → heading = "error: AWS request failed: ") ∧
      (¬ e.Transient → heading = "error: ")
  known : ∀ e family, task.outcome = .error e → e.family? = some family → status.code = 1
  failed : ∀ e, task.outcome = .error e → status.code ≠ 0

theorem Failure.exists_report_eq (e : Failure) :
    ∃ heading, e.report = heading ++ e.message ∧
      (e.Transient → heading = "error: AWS request failed: ") ∧
      (¬ e.Transient → heading = "error: ") := by
  rw [report, ← isTransport_iff]
  cases e.isTransport with
  | true => exact ⟨_, if_pos rfl, fun _ => rfl, fun h => absurd rfl h⟩
  | false => exact ⟨_, if_neg Bool.false_ne_true, nofun, fun _ => rfl⟩

section Ends

variable {task : Session ExitStatus} {w : World} {achieved : Prop}

theorem ends_of_ok {s : ExitStatus} (h : (task.run w).outcome = .ok s) (hs : s ≠ .transport)
    (hachieved : s = .success ↔ achieved) :
    ((guarded task).run w).Ends (task.run w) achieved s := by
  have hfailed : ∀ {e : Failure}, (task.run w).outcome ≠ .error e := by
    intro e he
    cases h.symm.trans he
  have hnone : ¬ ∃ e, (task.run w).outcome = .error e ∧ e.Transient := fun ⟨_, he, _⟩ => hfailed he
  have hsome : ∃ s, (task.run w).outcome = .ok s := ⟨s, h⟩
  rw [run_guarded_ok h]
  refine ⟨h, ?_, ?_, ?_, fun _ _ => rfl, fun e he => absurd he hfailed,
    fun e _ he => absurd he hfailed, fun e he => absurd he hfailed⟩
  · refine iff_of_false (fun hcode => ?_) hnone
    cases s with
    | transport => exact hs rfl
    | _ => cases hcode
  · rw [and_iff_right hsome, ← hachieved]
    cases s <;> decide
  · rw [and_iff_right hnone, and_iff_right hsome, ← hachieved]
    cases s with
    | transport => exact absurd rfl hs
    | _ => decide

/-- A guarded task that fails in a way that is reported ends with the status of its failure. -/
theorem ends_of_error {e : Failure} (h : (task.run w).outcome = .error e) (he : e.Reportable) :
    ((guarded task).run w).Ends (task.run w) achieved e.exitStatus := by
  have hok : ¬ ((∃ s, (task.run w).outcome = .ok s) ∧ achieved) := by
    rintro ⟨⟨s, hs⟩, -⟩
    cases h.symm.trans hs
  have hsame : ∀ {e' : Failure}, (task.run w).outcome = .error e' → e' = e := by
    intro e' he'
    exact Except.error.inj (he'.symm.trans h)
  have htransient : (∃ e', (task.run w).outcome = .error e' ∧ e'.Transient) ↔ e.Transient :=
    ⟨fun ⟨e', he', ht⟩ => hsame he' ▸ ht, fun ht => ⟨e, h, ht⟩⟩
  have hcode : e.exitStatus.code = if e.isTransport then 2 else 1 := by
    unfold Failure.exitStatus
    split <;> rfl
  rw [run_guarded_reported h (Failure.isReported_iff.mpr he)]
  refine ⟨rfl, ?_, ?_, ?_, ?_, ?_, ?_, ?_⟩
  · rw [htransient, hcode, ← Failure.isTransport_iff]
    cases e.isTransport <;> decide
  · rw [hcode]
    exact iff_of_false (by split <;> decide) hok
  · rw [htransient, and_iff_left hok, hcode, ← Failure.isTransport_iff]
    cases e.isTransport <;> decide
  · intro s hs
    cases h.symm.trans hs
  · intro e' he'
    obtain ⟨heading, hreport, hheading⟩ := e.exists_report_eq
    rw [hsame he', hreport]
    exact ⟨heading, rfl, hheading⟩
  · intro e' family he' hfamily
    rw [Failure.exitStatus_of_not_transient (Failure.not_transient_of_family (hsame he' ▸ hfamily))]
    rfl
  · intro _ _
    rw [hcode]
    split <;> decide

/-- A guarded task that comes to a status has failed, if at all, in a way that is reported. -/
theorem reportable_of_guarded_ok {s : ExitStatus} (h : ((guarded task).run w).outcome = .ok s)
    {e : Failure} (he : (task.run w).outcome = .error e) : e.Reportable := by
  rw [← Failure.isReported_iff]
  by_contra hunreported
  rw [run_guarded_unreported he (Bool.not_eq_true _ ▸ hunreported)] at h
  cases h

end Ends

def Event.IsNote (e : Event) : Prop := (∃ record, e = .logged record) ∨ ∃ line, e = .complained line

/-- What has failed with nothing but log records has only the report to add. -/
theorem isNote_of_guarded {task : Session ExitStatus} {w : World} (path : Path)
    (h : (task.run w).events = [loading path]) :
    ∀ e ∈ ((guarded task).run w).events, e.IsNote := by
  intro e he
  rcases events_guarded task w with hevents | ⟨line, hevents⟩
  · rw [hevents, h, List.mem_singleton] at he
    exact .inl ⟨_, he⟩
  · rw [hevents, h] at he
    rcases List.mem_pair.mp he with rfl | rfl
    · exact .inl ⟨_, rfl⟩
    · exact .inr ⟨_, rfl⟩

/-- A command whose inputs can be used and whose task ends normally or with a failure that the tools
know ends with status 2 exactly if the failure is one on the way to a service, with status 0
exactly if nothing failed and it has done what it is for, and with status 1 otherwise. If the
configuration cannot be loaded, or the template that a stack needs cannot be read, it does nothing
but write to the standard error stream: it neither makes clients nor asks anything. -/
theorem command_ends {c : Command} {files : Files} {env : Environment} {a : Arguments}
    {inputs : Inputs} (hinputs : c.inputs env a = .ok inputs) (w : World) :
    ((∀ e, ((c.task files inputs).run w).outcome = .error e → e.Reportable) →
      ∃ status, ((c.run files env a).run w).Ends ((c.task files inputs).run w)
        (c.Achieved files inputs w ((c.run files env a).run w)) status) ∧
    ((∃ e, Config.load files inputs.configPath = .error e) ∨
      c = .provision ∧ (∃ path e, inputs.templatePath = some path ∧
        readText files .template path = .error e) →
      ∀ e ∈ ((c.run files env a).run w).events, e.IsNote) := by
  rw [Command.run_eq hinputs]
  constructor
  · intro hreportable
    cases h : ((c.task files inputs).run w).outcome with
    | error e => exact ⟨_, ends_of_error h (hreportable e h)⟩
    | ok s =>
      cases c with
      | validate =>
        obtain ⟨rfl, hachieved⟩ := achieved_of_validateTask h _
        exact ⟨_, ends_of_ok h nofun (iff_of_true rfl hachieved)⟩
      | provision =>
        obtain ⟨hs, hachieved⟩ := achieved_of_provisionTask h
        refine ⟨s, ends_of_ok h hs ?_⟩
        rw [run_guarded_ok h]
        exact hachieved
  · rintro (⟨e, hload⟩ | ⟨rfl, path, e, hpath, hread⟩)
    · exact isNote_of_guarded _ (congrArg Run.events (run_task_of_load_error c hload))
    · apply isNote_of_guarded inputs.configPath
      cases hload : Config.load files inputs.configPath with
      | error e => exact congrArg Run.events (run_task_of_load_error .provision hload)
      | ok config =>
        exact congrArg Run.events (run_provisionTask_of_template_error hload hpath hread)

def Rejection.throttled : Rejection where
  operation := "DescribeStackEvents"
  code := .given "Throttling"
  reason := .given "Rate exceeded"
  status := 400

/-- A stack that fails, and a service that does not give its events. -/
def World.throttled : World where
  answers
    | .describeStackEvents => [⟨0.5, .error (.rejected .throttled)⟩]
    | m => World.failing.answers m

def Arguments.pair : Arguments where
  template := some (Path.ofText "stack")
  dryRun := some false

def Inputs.pair : Inputs where
  configPath := defaultConfig
  templatePath := some (Path.ofText "stack")
  profile := none
  pollInterval := defaultInterval
  waitLimit := defaultLimit
  dryRun := false

theorem command_ends_throttled :
    ∃ status, ((Command.provision.run Files.pair (fun _ => none) .pair).run .throttled).Ends
        ((Command.provision.task Files.pair .pair).run .throttled)
        (Command.Achieved Files.pair .pair .throttled
          ((Command.provision.run Files.pair (fun _ => none) .pair).run .throttled) .provision)
        status ∧ status.code = 2 := by
  have hinputs : Command.provision.inputs (fun _ => none) .pair = .ok .pair := rfl
  have hsome : ((Command.provision.run Files.pair (fun _ => none) .pair).run
      .throttled).outcome.toOption = some .transport := by decide +kernel
  have hreportable : ∀ e, ((Command.provision.task Files.pair .pair).run .throttled).outcome =
      .error e → e.Reportable := by
    intro e he
    rw [Command.run_eq hinputs] at hsome
    cases h : ((guarded (Command.provision.task Files.pair .pair)).run .throttled).outcome with
    | error e => rw [h] at hsome; cases hsome
    | ok s => exact reportable_of_guarded_ok h he
  obtain ⟨status, hends⟩ := (command_ends hinputs .throttled).1 hreportable
  rw [hends.outcome] at hsome
  exact ⟨status, hends, congrArg ExitStatus.code (Option.some.inj hsome)⟩

end ClusterLaunch
