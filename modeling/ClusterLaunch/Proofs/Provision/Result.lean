import ClusterLaunch.Proofs.Provision.Faults
import ClusterLaunch.Proofs.Stack.Events

/-! # The result of a provisioning run

A run that comes to a result tells what became of its stack: of the one stack that it submitted,
at the first status that is not pending, with the causes if the stack failed.
-/

namespace ClusterLaunch

open Session

def Request.stack? : Request → Option String
  | .describeStacks handle | .describeStackEvents handle _ => some handle
  | _ => none

def linesText (lines : List String) : String := String.join (lines.map (· ++ "\n"))

/-- The text that a run writes to the standard error stream, apart from the log. -/
def Run.errorText {α : Type} (r : Run α) : String := linesText r.complaints

def failureLines (status : String) (reason : Option String) (messages : List String) :
    List String :=
  ("error: stack creation failed: " ++ status ++ reason.elim "" (": " ++ ·)) ::
    if messages = [] then []
    else "" :: "Printing the most recent failed stack events:" :: messages

/-- A run with a result followed one stack to its first status that is not pending. -/
structure Run.Settled (r : Run ProvisionResult) (a : Answers) (result : ProvisionResult)
    (handle : String) (n : ℕ) (report : ReportedStack) : Prop where
  handles : ∀ q ∈ r.requests, ∀ stack, q.stack? = some stack → stack = handle
  polls : r.methods.count .describeStacks = n + 1
  pending : ∀ i < n, Pending (a.reply .describeStacks i)
  reported : ∃ others, a.reply .describeStacks n = .ok (report :: others)
  terminal : ¬ StackStatus.pendingMark.toList <:+ (report.status.getD "").toList
  stackId : result.stackId = some handle
  finalStatus : result.status =
    some ⟨(filled report.id).getD handle, report.status.getD "", filled report.reason⟩
  success : result.success = true ↔ report.status = some "CREATE_COMPLETE"
  complete : result.success = true → result.failureMessages = [] ∧ r.errorText = ""
  failed : result.success = false → ∃ pages, History a pages ∧
    result.failureMessages = ReportedEvent.rootCauses (pages.flatMap fun page => page.events) ∧
    r.errorText = linesText
      (failureLines (report.status.getD "") (filled report.reason) result.failureMessages)

/-- A wait with a result ended with the first answer that is not pending. -/
theorem exists_first_terminal {handle : String} {interval limit : Float} {w : World}
    {status : StackStatus} (h : ((waitForStack handle interval limit).run w).outcome = .ok status) :
    ∃ n report others, (∀ i < n, Pending (w.answers.reply .describeStacks i)) ∧
      w.answers.reply .describeStacks n = .ok (report :: others) ∧
      status = .ofReported handle report ∧ status.isTerminal = true ∧
      Polls ((waitForStack handle interval limit).run w) handle interval limit w n := by
  obtain ⟨n, hpending, hpolls⟩ := exists_last_poll handle interval limit w
  obtain ⟨report, others, hreply, hterminal, rfl⟩ :=
    waitVerdict_eq_ok_iff.mp (hpolls.outcome.symm.trans h)
  exact ⟨n, report, others, hpending, hreply, rfl, hterminal, hpolls⟩

/-- What a launch does when the stack has stopped changing. -/
def conclude (handle : String) (status : StackStatus) : Session ProvisionResult := do
  if status.isSuccess then
    print ("Stack " ++ handle ++ " reached " ++ status.status)
    return ⟨true, some handle, some status, []⟩
  else
    let messages ← describeFailure handle
    reportCauses status messages
    return ⟨false, some handle, some status, messages⟩

/-- What a launch does when the stack has been submitted. -/
def follow (plan : ProvisionPlan) (handle : String) : Session ProvisionResult := do
  conclude handle (← waitForStack handle plan.pollInterval plan.waitLimit)

theorem launch_eq (config : Config) (plan : ProvisionPlan) :
    launch config plan = (do
      print "\n--- Creating stack ---"
      let handle ← createStack config plan.template
      print ("Stack submitted: " ++ handle)
      print "\n--- Waiting for stack ---"
      follow plan handle) := rfl

theorem complaints_forM (messages : List String) (w : World) :
    ((messages.forM complain).run w).complaints = messages := by
  induction messages generalizing w with
  | nil => rfl
  | cons message messages ih =>
    change Run.complaints (Session.run (complain message >>= fun _ => messages.forM complain) w) = _
    rw [complaints_bind_ok (silent_complain message |>.outcome w), ih]
    rfl

theorem StackStatus.detail_eq (status : StackStatus) :
    status.detail = status.status ++ status.reason.elim "" (": " ++ ·) := by
  cases h : status.reason with
  | none => simp [detail, h]
  | some reason => simp [detail, h, String.append_assoc]

/-- The report is the line on the status and, if there are messages, a blank line, a heading and
the messages. -/
theorem errorText_reportCauses (status : StackStatus) (messages : List String) (w : World) :
    ((reportCauses status messages).run w).errorText =
      linesText (failureLines status.status status.reason messages) := by
  have hline : "error: stack creation failed: " ++ status.detail =
      "error: stack creation failed: " ++ status.status ++ status.reason.elim "" (": " ++ ·) := by
    rw [StackStatus.detail_eq, String.append_assoc]
  rw [reportCauses, Run.errorText, complaints_bind_ok ((silent_complain _).outcome w),
    failureLines, ← hline]
  cases messages with
  | nil => rfl
  | cons message messages =>
    have hheading : "\nPrinting the most recent failed stack events:" =
        "\n" ++ "Printing the most recent failed stack events:" := by decide
    change linesText ([_] ++ Run.complaints (Session.run (do
      complain "\nPrinting the most recent failed stack events:"
      (message :: messages).forM complain) w)) = _
    rw [complaints_bind_ok (silent_complain _ |>.outcome w), complaints_forM, hheading]
    have hcomplain : ∀ line v, ((complain line).run v).complaints = [line] := fun _ _ => rfl
    rw [hcomplain, if_neg (List.cons_ne_nil _ _)]
    simp only [linesText, List.cons_append, List.nil_append, List.map_cons, String.join_cons]
    simp only [String.empty_append, String.append_assoc]

theorem createStack_eq_ok {config : Config} {template handle : String} {w : World}
    (h : ((createStack config template).run w).outcome = .ok handle) :
    ∃ id, w.answers.next .createStack = .ok id ∧
      handle = (filled id).getD (config.text .clusterName) := by
  rw [createStack, outcome_log_bind] at h
  obtain ⟨id, hid, h⟩ := outcome_bind_eq_ok_iff.mp h
  rw [outcome_ask] at hid
  cases h
  exact ⟨id, hid, rfl⟩

theorem Run.complaints_eq {α : Type} (r : Run α) :
    r.complaints = (r.events.filter Event.isAction).filterMap Event.complaint? := by
  rw [Run.complaints, List.filterMap_filter]
  congr 1
  funext e
  cases e <;> rfl

theorem requests_wait {handle : String} {interval limit : Float} {w : World} {n : ℕ}
    (h : Polls ((waitForStack handle interval limit).run w) handle interval limit w n) :
    ((waitForStack handle interval limit).run w).requests =
      List.replicate (n + 1) (.describeStacks handle) := by
  rw [Run.requests_eq, h.events, requests_pollEvents]

theorem complaints_wait {handle : String} {interval limit : Float} {w : World} {n : ℕ}
    (h : Polls ((waitForStack handle interval limit).run w) handle interval limit w n) :
    ((waitForStack handle interval limit).run w).complaints = [] := by
  rw [Run.complaints_eq, h.events]
  apply List.filterMap_eq_nil_iff.mpr
  intro e he
  rcases List.mem_append.mp he with he | he
  · obtain ⟨_, hround, he⟩ := List.mem_flatten.mp he
    rw [List.eq_of_mem_replicate hround] at he
    rcases List.mem_pair.mp he with rfl | rfl <;> rfl
  · rw [List.mem_singleton.mp he]
    rfl

/-- The conclusion asks for nothing but events, and tells the causes of a failure. -/
structure Concludes (r : Run ProvisionResult) (a : Answers) (result : ProvisionResult)
    (handle : String) (status : StackStatus) : Prop where
  requests : ∀ q ∈ r.requests, ∃ token, q = .describeStackEvents handle token
  stackId : result.stackId = some handle
  finalStatus : result.status = some status
  success : result.success = status.isSuccess
  complete : result.success = true → result.failureMessages = [] ∧ r.errorText = ""
  failed : result.success = false → ∃ pages, History a pages ∧
    result.failureMessages = ReportedEvent.rootCauses (pages.flatMap fun page => page.events) ∧
    r.errorText = linesText (failureLines status.status status.reason result.failureMessages)

theorem errorText_conclude {handle : String} {status : StackStatus} {w : World}
    {messages : List String} (hs : ¬ status.isSuccess = true)
    (h : ((describeFailure handle).run w).outcome = .ok messages) :
    ((conclude handle status).run w).errorText =
      linesText (failureLines status.status status.reason messages) := by
  have hquiet := (inquiry_describeFailure .initial handle).complaints w
  rw [conclude, if_neg hs, Run.errorText, complaints_bind_ok h, hquiet, List.nil_append,
    complaints_bind_ok ((silent_reportCauses status messages).outcome _)]
  exact (congrArg linesText (List.append_nil _)).trans (errorText_reportCauses status messages _)

theorem concludes {handle : String} {status : StackStatus} {w : World} {result : ProvisionResult}
    (h : ((conclude handle status).run w).outcome = .ok result) :
    Concludes ((conclude handle status).run w) w.answers result handle status := by
  by_cases hs : status.isSuccess = true
  · have hrun : (conclude handle status).run w = ⟨.ok ⟨true, some handle, some status, []⟩,
        [.printed ("Stack " ++ handle ++ " reached " ++ status.status)], w⟩ := by
      rw [conclude, if_pos hs]
      rfl
    rw [hrun] at h ⊢
    cases h
    exact ⟨nofun, rfl, rfl, hs.symm, fun _ => ⟨rfl, rfl⟩, nofun⟩
  · have hconclude : conclude handle status = (do
        let messages ← describeFailure handle
        reportCauses status messages
        return ⟨false, some handle, some status, messages⟩) := if_neg hs
    rw [hconclude] at h
    obtain ⟨messages, hmessages, h⟩ := outcome_bind_eq_ok_iff.mp h
    rw [(silent_reportCauses status messages).outcome_bind] at h
    cases h
    refine ⟨?_, rfl, rfl, (Bool.not_eq_true _ ▸ hs).symm, nofun, fun _ => ?_⟩
    · intro q hq
      rw [hconclude, requests_bind_ok hmessages,
        (silent_reportCauses status messages).requests_bind, requests_describeFailure] at hq
      rcases List.mem_append.mp hq with hq | hq
      · obtain ⟨token, -, rfl⟩ := List.mem_map.mp hq
        exact ⟨token, rfl⟩
      · cases hq
    · obtain ⟨pages, hpages, hcauses⟩ := bind_eq_ok_iff.mp
        ((outcome_describeFailure handle w).symm.trans hmessages)
      cases hcauses
      exact ⟨pages, history_iff.mpr hpages, rfl, errorText_conclude hs hmessages⟩

theorem History.congr {a b : Answers} {pages : List EventPage}
    (h : a .describeStackEvents = b .describeStackEvents) (ha : History a pages) :
    History b pages := by
  rwa [History, ← h]

/-- Only requests for the status and for the events of a stack ask about one. -/
theorem Request.stack?_eq_none {q : Request} (hs : q.method ≠ .describeStacks)
    (he : q.method ≠ .describeStackEvents) : q.stack? = none := by
  cases q with
  | describeStacks handle => exact absurd rfl hs
  | describeStackEvents handle token => exact absurd rfl he
  | _ => rfl

/-- Polls up to the first status that is not pending, and then the conclusion. -/
theorem Concludes.settled {r s : Run ProvisionResult} {a b : Answers} {result : ProvisionResult}
    {handle : String} {n : ℕ} {report : ReportedStack} {others : List ReportedStack}
    (h : Concludes r a result handle (.ofReported handle report))
    (hrequests : s.requests = List.replicate (n + 1) (.describeStacks handle) ++ r.requests)
    (hcomplaints : s.complaints = r.complaints)
    (hevents : a .describeStackEvents = b .describeStackEvents)
    (hpending : ∀ i < n, Pending (b.reply .describeStacks i))
    (hreply : b.reply .describeStacks n = .ok (report :: others))
    (hterminal : (StackStatus.ofReported handle report).isTerminal = true) :
    s.Settled b result handle n report where
  handles := by
    intro q hq stack hstack
    rw [hrequests] at hq
    rcases List.mem_append.mp hq with hq | hq
    · rw [List.eq_of_mem_replicate hq] at hstack
      exact (Option.some.inj hstack).symm
    · obtain ⟨token, rfl⟩ := h.requests q hq
      exact (Option.some.inj hstack).symm
  polls := by
    have hnot : Method.describeStacks ∉ r.requests.map Request.method := by
      intro hm
      obtain ⟨q, hq, hmethod⟩ := List.mem_map.mp hm
      obtain ⟨token, rfl⟩ := h.requests q hq
      cases hmethod
    rw [Run.methods, hrequests, List.map_append, List.map_replicate, List.count_append,
      List.count_replicate_self, List.count_eq_zero.mpr hnot]
  pending := hpending
  reported := ⟨others, hreply⟩
  terminal := isTerminal_eq_true_iff.mp hterminal
  stackId := h.stackId
  finalStatus := h.finalStatus
  success := by
    rw [h.success, StackStatus.isSuccess, decide_eq_true_iff, StackStatus.ofReported]
    cases report.status with
    | none => simp
    | some status => simp
  complete := by
    have htext : s.errorText = r.errorText := congrArg linesText hcomplaints
    rw [htext]
    exact h.complete
  failed := by
    have htext : s.errorText = r.errorText := congrArg linesText hcomplaints
    intro hfail
    obtain ⟨pages, hpages, hmessages⟩ := h.failed hfail
    rw [htext]
    exact ⟨pages, hpages.congr hevents, hmessages⟩

theorem follow_settled {plan : ProvisionPlan} {handle : String} {w : World}
    {result : ProvisionResult} (h : ((follow plan handle).run w).outcome = .ok result) :
    ∃ n report, ((follow plan handle).run w).Settled w.answers result handle n report := by
  obtain ⟨status, hwaited, hconcluded⟩ := outcome_bind_eq_ok_iff.mp h
  obtain ⟨n, report, others, hpending, hreply, rfl, hterminal, hpolls⟩ :=
    exists_first_terminal hwaited
  refine ⟨n, report, (concludes hconcluded).settled ?_ ?_ ?_ hpending hreply hterminal⟩
  · rw [follow, requests_bind_ok hwaited, requests_wait hpolls]
  · rw [follow, complaints_bind_ok hwaited, complaints_wait hpolls, List.nil_append]
  · rw [hpolls.answers, Answers.after_apply_of_not_mem]
    intro hm
    cases List.eq_of_mem_replicate hm

/-- Requests and answers that have nothing to do with the stack change nothing. -/
theorem Run.Settled.extend {r s : Run ProvisionResult} {a b : Answers} {result : ProvisionResult}
    {handle : String} {n : ℕ} {report : ReportedStack} (h : r.Settled a result handle n report)
    (before : List Request) (hrequests : s.requests = before ++ r.requests)
    (hbefore : ∀ q ∈ before, q.method ≠ .describeStacks ∧ q.method ≠ .describeStackEvents)
    (hcomplaints : s.complaints = r.complaints)
    (hstacks : b .describeStacks = a .describeStacks)
    (hevents : b .describeStackEvents = a .describeStackEvents) :
    s.Settled b result handle n report := by
  have htext : s.errorText = r.errorText := congrArg linesText hcomplaints
  have hreply := Answers.reply_congr hstacks
  refine ⟨?_, ?_, ?_, ?_, h.terminal, h.stackId, h.finalStatus, h.success, ?_, ?_⟩
  · intro q hq stack hstack
    rw [hrequests] at hq
    rcases List.mem_append.mp hq with hq | hq
    · rw [Request.stack?_eq_none (hbefore q hq).1 (hbefore q hq).2] at hstack
      cases hstack
    · exact h.handles q hq stack hstack
  · have hnot : Method.describeStacks ∉ before.map Request.method := by
      intro hm
      obtain ⟨q, hq, hmethod⟩ := List.mem_map.mp hm
      exact (hbefore q hq).1 hmethod
    rw [Run.methods, hrequests, List.map_append, List.count_append,
      List.count_eq_zero.mpr hnot, Nat.zero_add]
    exact h.polls
  · intro i hi
    rw [hreply]
    exact h.pending i hi
  · rw [hreply]
    exact h.reported
  · rw [htext]
    exact h.complete
  · intro hfail
    obtain ⟨pages, hpages, hmessages⟩ := h.failed hfail
    rw [htext]
    exact ⟨pages, hpages.congr hevents.symm, hmessages⟩

theorem launch_settled {config : Config} {plan : ProvisionPlan} {w : World}
    {result : ProvisionResult} (h : ((launch config plan).run w).outcome = .ok result) :
    ∃ id n report, w.answers.next .createStack = .ok id ∧
      ((launch config plan).run w).Settled w.answers result
        ((filled id).getD (config.text .clusterName)) n report := by
  rw [launch_eq, (silent_print _).outcome_bind] at h
  obtain ⟨handle, hhandle, h⟩ := outcome_bind_eq_ok_iff.mp h
  rw [(silent_print _).outcome_bind, (silent_print _).outcome_bind] at h
  obtain ⟨id, hid, rfl⟩ := createStack_eq_ok hhandle
  obtain ⟨n, report, hsettled⟩ := follow_settled h
  have hsubmitted := follows_createStack config plan.template
  refine ⟨id, n, report, hid,
    hsettled.extend ((createStack config plan.template).run w).requests ?_ ?_ ?_ ?_ ?_⟩
  · rw [launch_eq, (silent_print _).requests_bind, requests_bind_ok hhandle,
      (silent_print _).requests_bind, (silent_print _).requests_bind]
  · intro q hq
    obtain ⟨_, rfl, hm⟩ := hsubmitted.exists_mem_of_request hq
    rw [List.mem_singleton.mp hm]
    exact ⟨nofun, nofun⟩
  · rw [launch_eq, complaints_print_bind, complaints_bind_ok hhandle,
      (inquiry_createStack config plan.template).complaints, List.nil_append,
      complaints_print_bind, complaints_print_bind]
  · exact (hsubmitted.answers_eq (by rintro _ rfl; decide)).symm
  · exact (hsubmitted.answers_eq (by rintro _ rfl; decide)).symm

theorem complaints_announce_bind (config : Config) (plan : ProvisionPlan) {α : Type}
    (g : Unit → Session α) (w : World) :
    ((announce config plan >>= g).run w).complaints = ((g ()).run w).complaints := rfl

/-- A run that comes to a result either was a dry run, and has nothing to tell, or followed the
stack that it submitted: its requests, its result and its report are on that stack alone. -/
theorem provision_result {config : Config} {plan : ProvisionPlan} {w : World}
    {result : ProvisionResult} (h : ((provision config plan).run w).outcome = .ok result) :
    if plan.dryRun then
      result = ⟨true, none, none, []⟩ ∧ ((provision config plan).run w).errorText = ""
    else
      ∃ id n report, w.answers.next .createStack = .ok id ∧
        ((provision config plan).run w).Settled w.answers result
          ((filled id).getD (config.text .clusterName)) n report := by
  rw [provision_eq, (silent_announce config plan).outcome_bind, (silent_print _).outcome_bind] at h
  obtain ⟨u, hpreflight, h⟩ := outcome_bind_eq_ok_iff.mp h
  have hcomplaints : ((provision config plan).run w).complaints =
      ((proceed config plan).run ((preflight config).run w).world).complaints := by
    rw [provision_eq, complaints_announce_bind, complaints_print_bind, complaints_bind_ok hpreflight,
      (inquiry_preflight config).complaints, List.nil_append]
  rw [proceed, (silent_print _).outcome_bind] at h
  rw [proceed, complaints_print_bind] at hcomplaints
  by_cases hdry : plan.dryRun = true
  · rw [if_pos hdry] at h hcomplaints ⊢
    cases h
    exact ⟨rfl, congrArg linesText hcomplaints⟩
  · rw [if_neg hdry] at h hcomplaints ⊢
    have hkept : ∀ m, m.service = .cloudformation →
        w.answers m = ((preflight config).run w).world.answers m := by
      intro m hm
      refine ((follows_preflight config).answers_eq fun word hword hin => ?_).symm
      exact service_ne_of_mem_preflightWords hword hin hm
    obtain ⟨id, n, report, hid, hsettled⟩ := launch_settled h
    rw [← Answers.next_congr (hkept .createStack rfl)] at hid
    refine ⟨id, n, report, hid,
      hsettled.extend ((preflight config).run w).requests ?_ ?_ hcomplaints
        (hkept .describeStacks rfl) (hkept .describeStackEvents rfl)⟩
    · rw [provision_eq, (silent_announce config plan).requests_bind, (silent_print _).requests_bind,
        requests_bind_ok hpreflight, proceed, (silent_print _).requests_bind, if_neg hdry]
    · intro q hq
      have hservice := service_ne_of_mem_preflight (List.mem_map_of_mem hq)
      exact ⟨fun hm => hservice (hm ▸ rfl), fun hm => hservice (hm ▸ rfl)⟩

def EventPage.rollback : List EventPage :=
  [⟨[⟨some "CREATE_FAILED", some "AWS::EC2::Instance", some "Worker",
      some "Resource creation cancelled"⟩], some "more"⟩,
    ⟨[⟨some "CREATE_FAILED", some "AWS::EC2::Instance", some "Controller",
      some "Limit exceeded"⟩, ⟨some "CREATE_IN_PROGRESS", none, none, none⟩], none⟩]

/-- A network with room and a key pair, and a stack that fails after the first poll. -/
def World.failing : World where
  answers
    | .createStack => [⟨0.5, .ok none⟩]
    | .describeStacks =>
      [⟨0.5, .ok [⟨some "blue-1", some "CREATE_IN_PROGRESS", none⟩]⟩,
        ⟨0.5, .ok [⟨some "blue-1", some "ROLLBACK_COMPLETE", some "Controller failed"⟩]⟩]
    | .describeStackEvents => EventPage.rollback.map fun page => ⟨0.5, .ok page⟩
    | m => World.unwilling.answers m

def ProvisionResult.rollback : ProvisionResult where
  success := false
  stackId := some "blue"
  status := some ⟨"blue-1", "ROLLBACK_COMPLETE", some "Controller failed"⟩
  failureMessages := ["CREATE_FAILED AWS::EC2::Instance Controller Limit exceeded"]

theorem provision_result_failing :
    ∃ n report, ((provision .inPlace ⟨"{}", false, 3.0, 60.0⟩).run .failing).Settled
      World.failing.answers .rollback "blue" n report := by
  have h : ((provision .inPlace ⟨"{}", false, 3.0, 60.0⟩).run .failing).outcome =
      .ok .rollback := rfl
  obtain ⟨id, n, report, hid, hsettled⟩ := provision_result h
  cases hid
  exact ⟨n, report, hsettled⟩

end ClusterLaunch
