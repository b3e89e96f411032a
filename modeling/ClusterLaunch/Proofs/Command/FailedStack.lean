import ClusterLaunch.Proofs.Cloud.Fairness
import ClusterLaunch.Proofs.Command.ExitStatus

/-! # The report on a stack that failed

That a stack failed is told after its events have been read, so it is told only if they can be. When
a request for events fails, the run ends with the failure of that request, and what the last poll
found is lost.
-/

namespace ClusterLaunch

open Session

def ReportedStack.failureLine (report : ReportedStack) : String :=
  "error: stack creation failed: " ++ (report.status.getD "" ++
    (filled report.reason).elim "" (": " ++ ·))

/-- A report on a stack that has stopped without being complete. -/
structure ReportedStack.Failed (report : ReportedStack) : Prop where
  terminal : ¬ StackStatus.pendingMark.toList <:+ (report.status.getD "").toList
  incomplete : report.status ≠ some "CREATE_COMPLETE"

theorem ReportedStack.Failed.not_isSuccess {report : ReportedStack} (h : report.Failed)
    (handle : String) : ¬ (StackStatus.ofReported handle report).isSuccess = true := by
  intro hsuccess
  have hstatus : report.status.getD "" = "CREATE_COMPLETE" := of_decide_eq_true hsuccess
  cases hreport : report.status with
  | none =>
    rw [hreport] at hstatus
    exact absurd hstatus (by decide)
  | some status =>
    rw [hreport] at hstatus
    exact h.incomplete (hreport.trans (congrArg some hstatus))

/-- The report on a failure begins with the line that tells of it. -/
theorem failureLine_mem_complaints (handle : String) (report : ReportedStack)
    (messages : List String) (w : World) :
    report.failureLine ∈ ((reportCauses (.ofReported handle report) messages).run w).complaints := by
  have hline : "error: stack creation failed: " ++ (StackStatus.ofReported handle report).detail =
      report.failureLine :=
    congrArg ("error: stack creation failed: " ++ ·) (StackStatus.detail_eq _)
  rw [reportCauses, complaints_complain_bind, hline]
  exact List.mem_cons_self

theorem getElem?_toList_append {s : String} {i : ℕ} {c : Char} (h : s.toList[i]? = some c)
    (t : String) : (s ++ t).toList[i]? = some c := by
  obtain ⟨hlt, -⟩ := List.getElem?_eq_some_iff.mp h
  rw [String.toList_append, List.getElem?_append_left hlt, h]

theorem Rejection.head_message (r : Rejection) : r.message.toList[0]? = some 'A' := by
  -- the message is a sum of seven texts after the first
  iterate 7 apply getElem?_toList_append
  rfl

/-- The report of a failure of a service does not tell that a stack failed. Their first letters
after the common heading differ. -/
theorem report_ne_failureLine {e : Failure} (he : e.OfService) (report : ReportedStack) :
    e.report ≠ report.failureLine := by
  have hline : report.failureLine.toList[7]? = some 's' :=
    getElem?_toList_append (s := "error: stack creation failed: ") rfl _
  have hreport : e.report.toList[7]? = some 'A' := by
    unfold Failure.report
    split
    · exact getElem?_toList_append (s := "error: AWS request failed: ") rfl _
    · rename_i h
      cases he with
      | disrupted _ | unreached _ => exact absurd rfl h
      | rejected r =>
        rw [String.toList_append, List.getElem?_append_right (by decide)]
        exact r.head_message
  intro h
  rw [h, hline] at hreport
  cases hreport

theorem run_finish_of_failed {result : ProvisionResult} (h : result.success = false) (w : World) :
    (finish result).run w = ⟨.ok .failure, [], w⟩ := by
  rw [finish, h]
  rfl

section Pursue

variable {plan : ProvisionPlan} {handle : String} {w : World} {n i : ℕ} {report : ReportedStack}
  {others : List ReportedStack}

/-- A poll that finds the stack failed is the last, and the wait comes to what it found. -/
theorem outcome_wait_of_failed (h : report.Failed)
    (hi : i < ((pursue plan handle).run w).methods.count .describeStacks)
    (hreply : w.answers.reply .describeStacks i = .ok (report :: others)) :
    ((waitForStack handle plan.pollInterval plan.waitLimit).run w).outcome =
      .ok (.ofReported handle report) := by
  obtain ⟨n, hpending, hpolls⟩ := exists_last_poll handle plan.pollInterval plan.waitLimit w
  rw [polls_pursue hpolls] at hi
  have hnot : ¬ Pending (w.answers.reply .describeStacks i) := by
    rintro ⟨report', others', hreply', hmark⟩
    cases hreply.symm.trans hreply'
    exact h.terminal hmark
  obtain rfl : i = n :=
    (Nat.lt_succ_iff_lt_or_eq.mp hi).resolve_left fun hlt => hnot (hpending i hlt)
  rw [hpolls.outcome]
  exact waitVerdict_eq_ok_iff.mpr
    ⟨report, others, hreply, isTerminal_eq_true_iff.mpr h.terminal, rfl⟩

/-- Once its events are known, a failed stack is reported. -/
theorem conclude_of_history (h : report.Failed) (handle : String) {pages : List EventPage}
    (hpages : History w.answers pages) :
    ∃ result, ((conclude handle (.ofReported handle report)).run w).outcome = .ok result ∧
      result.success = false ∧
      report.failureLine ∈ ((conclude handle (.ofReported handle report)).run w).complaints := by
  obtain ⟨messages, hmessages⟩ : ∃ messages, ((describeFailure handle).run w).outcome =
      .ok messages := ⟨_, outcome_of_history hpages⟩
  have hquiet := (inquiry_describeFailure .initial handle).complaints w
  rw [conclude, if_neg (h.not_isSuccess handle)]
  refine ⟨⟨false, some handle, some (.ofReported handle report), messages⟩, ?_, rfl, ?_⟩
  · rw [outcome_bind, hmessages, ok_bind, (silent_reportCauses _ _).outcome_bind]
    rfl
  · rw [complaints_bind_ok hmessages, hquiet, List.nil_append,
      complaints_bind_ok ((silent_reportCauses _ _).outcome _)]
    exact List.mem_append_left _ (failureLine_mem_complaints handle report _ _)

/-- Before its events are known, nothing is told about it. -/
theorem conclude_of_listing_error (h : report.Failed) (handle : String) {e : Failure}
    (he : listing .describeStackEvents EventPage.goesOn (w.answers .describeStackEvents) =
      .error e) :
    ((conclude handle (.ofReported handle report)).run w).outcome = .error e ∧
      ((conclude handle (.ofReported handle report)).run w).complaints = [] := by
  have hmessages : ((describeFailure handle).run w).outcome = .error e := by
    rw [outcome_describeFailure, he, error_bind]
  rw [conclude, if_neg (h.not_isSuccess handle), run_bind_error hmessages]
  exact ⟨rfl, (inquiry_describeFailure .initial handle).complaints w⟩

/-- A run that follows a failed stack comes to what the listing of its events comes to. -/
theorem pursue_of_failed (h : report.Failed)
    (hi : i < ((pursue plan handle).run w).methods.count .describeStacks)
    (hreply : w.answers.reply .describeStacks i = .ok (report :: others)) :
    (∀ pages, History w.answers pages → ((pursue plan handle).run w).outcome = .ok .failure ∧
      report.failureLine ∈ ((pursue plan handle).run w).complaints) ∧
    ∀ e, listing .describeStackEvents EventPage.goesOn (w.answers .describeStackEvents) =
        .error e →
      ((pursue plan handle).run w).outcome = .error e ∧
      ((pursue plan handle).run w).complaints = [] := by
  have hwait := outcome_wait_of_failed h hi hreply
  obtain ⟨n, -, hpolls⟩ := exists_last_poll handle plan.pollInterval plan.waitLimit w
  have hevents : ((waitForStack handle plan.pollInterval plan.waitLimit).run w).world.answers
      .describeStackEvents = w.answers .describeStackEvents := by
    rw [hpolls.answers, Answers.after_apply_of_not_mem]
    intro hm
    cases List.eq_of_mem_replicate hm
  have hpursue : pursue plan handle =
      (waitForStack handle plan.pollInterval plan.waitLimit >>= fun status =>
        conclude handle status >>= finish) := bind_assoc _ _ _
  rw [hpursue, complaints_bind_ok hwait, complaints_wait hpolls, List.nil_append, outcome_bind,
    hwait, ok_bind]
  constructor
  · intro pages hpages
    obtain ⟨result, hresult, hsuccess, hline⟩ :=
      conclude_of_history h handle (hpages.congr hevents.symm)
    rw [outcome_bind, hresult, ok_bind, run_finish_of_failed hsuccess, complaints_bind_ok hresult]
    exact ⟨rfl, List.mem_append_left _ hline⟩
  · intro e he
    rw [← hevents] at he
    obtain ⟨houtcome, hcomplaints⟩ := conclude_of_listing_error h handle he
    rw [run_bind_error houtcome]
    exact ⟨rfl, hcomplaints⟩

end Pursue

/-- A provisioning run one of whose polls finds the stack failed is reported as failed, with status 1,
exactly if the events of the stack can be listed to the end. When the service fails a request for
events, the run ends with the status of that failure and writes nothing but its report: it says
nothing of the stack, and with a failure on the way to the service it ends with status 2. -/
theorem failed_stack_reported_iff {files : Files} {env : Environment} {a : Arguments}
    {inputs : Inputs} {w : World} {i : ℕ} {report : ReportedStack} {others : List ReportedStack}
    (hinputs : Command.provision.inputs env a = .ok inputs)
    (hi : i < ((Command.provision.run files env a).run w).methods.count .describeStacks)
    (hreply : w.answers.reply .describeStacks i = .ok (report :: others))
    (hfailed : report.Failed) (hfair : w.answers.Fair .describeStackEvents) :
    ((((Command.provision.run files env a).run w).outcome = .ok .failure ∧
      report.failureLine ∈ ((Command.provision.run files env a).run w).complaints) ↔
        ∃ pages, History w.answers pages) ∧
    ∀ e, e.OfService →
      listing .describeStackEvents EventPage.goesOn (w.answers .describeStackEvents) = .error e →
      ((Command.provision.run files env a).run w).outcome = .ok e.exitStatus ∧
        ((Command.provision.run files env a).run w).complaints = [e.report] := by
  rw [Command.run_eq hinputs, Command.task] at hi ⊢
  rw [methods_guarded] at hi
  obtain ⟨template, handle, v, hpursues⟩ := exists_pursues (Nat.zero_lt_of_lt hi)
  have hevents : v.answers .describeStackEvents = w.answers .describeStackEvents :=
    hpursues.answers _ (.inr rfl)
  have hv : v.answers.reply .describeStacks i = .ok (report :: others) := by
    rw [Answers.reply_congr (hpursues.answers _ (.inl rfl)), hreply]
  obtain ⟨hreported, hlost⟩ := pursue_of_failed hfailed (hpursues.polls ▸ hi) hv
  rw [hevents, ← hpursues.outcome, ← hpursues.complaints] at hlost
  rw [← hpursues.outcome, ← hpursues.complaints] at hreported
  have hservice : ∀ e, e.OfService →
      listing .describeStackEvents EventPage.goesOn (w.answers .describeStackEvents) = .error e →
      ((guarded (provisionTask files inputs)).run w).outcome = .ok e.exitStatus ∧
        ((guarded (provisionTask files inputs)).run w).complaints = [e.report] := by
    intro e he hlist
    obtain ⟨houtcome, hcomplaints⟩ := hlost e hlist
    rw [run_guarded_reported houtcome he.isReported, Run.complaints, List.filterMap_append,
      ← Run.complaints, hcomplaints]
    exact ⟨rfl, rfl⟩
  refine ⟨⟨?_, ?_⟩, hservice⟩
  · rintro ⟨houtcome, hline⟩
    cases hlist : listing .describeStackEvents EventPage.goesOn
        (w.answers .describeStackEvents) with
    | ok pages => exact ⟨pages, history_iff.mpr hlist⟩
    | error e =>
      -- neither a failure of the service nor a lack of answers tells that the stack failed
      exfalso
      rcases failsWith_listing hfair e hlist with he | m
      · rw [(hservice e he hlist).2, List.mem_singleton] at hline
        exact report_ne_failureLine he report hline.symm
      · rw [run_guarded_unreported (hlost _ hlist).1 rfl] at houtcome
        cases houtcome
  · rintro ⟨pages, hpages⟩
    obtain ⟨houtcome, hline⟩ := hreported pages (hpages.congr hevents.symm)
    rw [run_guarded_ok houtcome]
    exact ⟨houtcome, hline⟩

/-- What the last poll of `World.failing` reports. -/
def ReportedStack.rollback : ReportedStack where
  id := some "blue-1"
  status := some "ROLLBACK_COMPLETE"
  reason := some "Controller failed"

theorem failed_rollback : ReportedStack.rollback.Failed := ⟨by decide, by decide⟩

theorem failed_stack_reported_failing :
    ReportedStack.rollback.failureLine ∈
      ((Command.provision.run Files.pair (fun _ => none) .pair).run .failing).complaints := by
  have hinputs : Command.provision.inputs (fun _ => none) .pair = .ok .pair := rfl
  have hpolls : 1 < ((Command.provision.run Files.pair (fun _ => none) .pair).run
      .failing).methods.count .describeStacks := by decide +kernel
  have hfair : World.failing.answers.Fair .describeStackEvents := by
    intro answer hanswer e he
    obtain ⟨page, -, rfl⟩ := List.mem_map.mp hanswer
    cases he
  have hpages : History World.failing.answers EventPage.rollback := history_iff.mpr rfl
  exact ((failed_stack_reported_iff hinputs hpolls rfl failed_rollback hfair).1.mpr
    ⟨_, hpages⟩).2

/-- A stack that failed is not told of when its events cannot be read: the run ends as if the service
could not be reached. -/
theorem failed_stack_unreported :
    World.throttled.answers.reply .describeStacks 1 = .ok [.rollback] ∧
      ReportedStack.rollback.Failed ∧
      ((Command.provision.run Files.pair (fun _ => none) .pair).run .throttled).methods.count
        .describeStacks = 2 ∧
      ((Command.provision.run Files.pair (fun _ => none) .pair).run .throttled).outcome.toOption =
        some .transport ∧
      ReportedStack.rollback.failureLine ∉
        ((Command.provision.run Files.pair (fun _ => none) .pair).run .throttled).complaints :=
  ⟨rfl, failed_rollback, by decide +kernel⟩

end ClusterLaunch
