import ClusterLaunch.Proofs.Cloud.Tidy
import ClusterLaunch.Proofs.Cloud.Visits
import ClusterLaunch.Stack.Events

/-! # The causes of a failure

The causes are read off the whole history of a stack, whatever its pages are: each event that
reports a failed creation of its own gives one message, in the order of the events.
-/

namespace ClusterLaunch

open Session

/-- The pages of a history: the first answers, up to the first page without a token. -/
def History (a : Answers) (pages : List EventPage) : Prop :=
  pages.map .ok <+: (a .describeStackEvents).map Answer.result ∧
    ∃ init last, pages = init ++ [last] ∧
      (∀ page ∈ init, ∃ token, page.nextToken = some token ∧ token ≠ "") ∧
      (last.nextToken = none ∨ last.nextToken = some "")

namespace ReportedEvent

/-- An event reports a failed creation that was not cancelled because of another one. -/
def IsRootCause (e : ReportedEvent) : Prop :=
  e.status = some "CREATE_FAILED" ∧
    ¬ "Resource creation cancelled".toList <:+: (e.reason.getD "").toList

instance (e : ReportedEvent) : Decidable e.IsRootCause :=
  inferInstanceAs (Decidable (_ ∧ ¬ _))

/-- The fields of an event that are not empty, with spaces between them. -/
def summary (e : ReportedEvent) : String :=
  " ".intercalate
    (([e.status, e.type, e.logicalId, e.reason].map fun field => field.getD "").filter (· ≠ ""))

def rootCauses (events : List ReportedEvent) : List String :=
  events.flatMap fun e => if e.IsRootCause then [e.summary] else []

theorem rootCauses_append (s t : List ReportedEvent) :
    rootCauses (s ++ t) = rootCauses s ++ rootCauses t := List.flatMap_append

end ReportedEvent

theorem holds_iff_infix {part s : List Char} : holds part s = true ↔ part <:+: s := by
  induction s with
  | nil => rw [holds, List.isEmpty_iff, List.infix_nil]
  | cons c s ih =>
    rw [holds, Bool.or_eq_true, List.isPrefixOf_iff_prefix, ih, List.infix_cons_iff]

namespace StackEvent

theorem isCause_ofReported (e : ReportedEvent) :
    (ofReported e).isCause = true ↔ e.IsRootCause := by
  have hreason : isCancellation (filled e.reason) = true ↔
      "Resource creation cancelled".toList <:+: (e.reason.getD "").toList := by
    rw [← filled_getD]
    cases filled e.reason with
    | none => exact iff_of_false nofun (by decide)
    | some reason => exact holds_iff_infix
  have hstatus : e.status.getD "" = "CREATE_FAILED" ↔ e.status = some "CREATE_FAILED" := by
    cases e.status with
    | none => simp
    | some status => simp
  simp only [isCause, ofReported, ReportedEvent.IsRootCause, Bool.and_eq_true, decide_eq_true_eq,
    Bool.not_eq_true', ← Bool.not_eq_true, hreason, hstatus]

theorem message_ofReported (e : ReportedEvent) : (ofReported e).message = e.summary := by
  rw [message, ReportedEvent.summary, filterMap_filled]
  simp only [ofReported, List.map_cons, List.map_nil, Option.getD_some, filled_getD]

theorem messages_ofReported (events : List ReportedEvent) :
    messages (events.map ofReported) = ReportedEvent.rootCauses events := by
  induction events with
  | nil => rfl
  | cons e events ih =>
    have hcause := isCause_ofReported e
    rw [ReportedEvent.rootCauses, List.flatMap_cons, ← ReportedEvent.rootCauses, ← ih, messages,
      messages, List.map_cons, List.filter_cons]
    by_cases h : e.IsRootCause
    · rw [if_pos h, if_pos (hcause.mpr h), List.map_cons, message_ofReported]
      rfl
    · rw [if_neg h, if_neg (mt hcause.mp h)]
      rfl

end StackEvent

def EventPage.goesOn (page : EventPage) : Bool := (filled page.nextToken).isSome

theorem EventPage.goesOn_eq_true_iff {page : EventPage} :
    page.goesOn = true ↔ ∃ token, page.nextToken = some token ∧ token ≠ "" := by
  rw [goesOn, Option.isSome_iff_exists]
  simp only [filled_eq_some_iff]

theorem EventPage.goesOn_eq_false_iff {page : EventPage} :
    page.goesOn = false ↔ page.nextToken = none ∨ page.nextToken = some "" := by
  rw [goesOn, Option.isSome_eq_false_iff, Option.isNone_iff_eq_none, filled_eq_none_iff]

theorem history_iff {a : Answers} {pages : List EventPage} :
    History a pages ↔
      listing .describeStackEvents EventPage.goesOn (a .describeStackEvents) = .ok pages := by
  refine Iff.trans ?_ listing_eq_ok_iff.symm
  simp only [EventPage.goesOn_eq_true_iff, EventPage.goesOn_eq_false_iff]
  rfl

def EventPage.next (_ : Option String) (page : EventPage) : Option (Option String) :=
  (filled page.nextToken).map some

theorem StackEvent.fetch_eq (handle : String) :
    StackEvent.fetch handle = (do
      let pages ← allPages .describeStackEvents
        (fun token => ask (.describeStackEvents handle token)) EventPage.next none
      return pages.flatMap fun page => page.events.map ofReported) := rfl

theorem outcome_describeFailure (handle : String) (w : World) :
    ((describeFailure handle).run w).outcome = (do
      let pages ← listing .describeStackEvents EventPage.goesOn (w.answers .describeStackEvents)
      return ReportedEvent.rootCauses (pages.flatMap fun page => page.events)) := by
  have hgoes : ∀ token page, (EventPage.next token page).isSome = page.goesOn :=
    fun _ _ => Option.isSome_map
  rw [describeFailure, outcome_bind, StackEvent.fetch_eq, outcome_bind,
    outcome_allPages (fun token => fetches_ask (.describeStackEvents handle token)) hgoes]
  cases listing .describeStackEvents EventPage.goesOn (w.answers .describeStackEvents) with
  | error e => rfl
  | ok pages =>
    refine congrArg Except.ok ?_
    rw [← StackEvent.messages_ofReported, List.map_flatMap]

theorem requests_describeFailure (handle : String) (w : World) :
    ((describeFailure handle).run w).requests =
      (cursors EventPage.next none (w.answers .describeStackEvents)).map
        (.describeStackEvents handle) := by
  rw [describeFailure, requests_bind_of_nil fun _ _ => rfl, StackEvent.fetch_eq,
    requests_bind_of_nil fun _ _ => rfl]
  exact requests_allPages (fun token => fetches_ask (.describeStackEvents handle token))
    (fun _ _ => by rw [run_ask]; rfl) none w

/-- Each page after the first is asked for with the token of the page before. -/
theorem cursors_of_listing {token : Option String}
    {answers : List (Answer Method.describeStackEvents.Reply)} {pages : List EventPage}
    (h : listing .describeStackEvents EventPage.goesOn answers = .ok pages) :
    cursors EventPage.next token answers =
      token :: pages.dropLast.map fun page => page.nextToken :=
  cursors_token_of_listing (m := .describeStackEvents) EventPage.nextToken h

theorem outcome_of_history {handle : String} {w : World} {pages : List EventPage}
    (h : History w.answers pages) :
    ((describeFailure handle).run w).outcome =
      .ok (ReportedEvent.rootCauses (pages.flatMap fun page => page.events)) := by
  rw [outcome_describeFailure, history_iff.mp h]
  rfl

namespace ReportedEvent

def tidied (e : ReportedEvent) : ReportedEvent :=
  ⟨filled e.status, filled e.type, filled e.logicalId, filled e.reason⟩

theorem isRootCause_tidied (e : ReportedEvent) : e.tidied.IsRootCause ↔ e.IsRootCause := by
  have hstatus : filled e.status = some "CREATE_FAILED" ↔ e.status = some "CREATE_FAILED" := by
    rw [filled_eq_some_iff]
    exact and_iff_left (by decide)
  rw [IsRootCause, tidied, hstatus, filled_getD, IsRootCause]

theorem summary_tidied (e : ReportedEvent) : e.tidied.summary = e.summary := by
  simp only [summary, tidied, List.map_cons, List.map_nil, filled_getD]

theorem rootCauses_tidied (events : List ReportedEvent) :
    rootCauses (events.map tidied) = rootCauses events := by
  simp only [rootCauses, List.flatMap_map, isRootCause_tidied, summary_tidied]

end ReportedEvent

/-- How the fields of the pages are empty shows neither in the messages nor in the requests. -/
theorem describeFailure_tidied (handle : String) {v w : World}
    (h : v.answers.tidied .describeStackEvents = w.answers.tidied .describeStackEvents) :
    ((describeFailure handle).run v).outcome = ((describeFailure handle).run w).outcome ∧
      ((describeFailure handle).run v).requests = ((describeFailure handle).run w).requests := by
  have hevents : ∀ pages : List EventPage, ReportedEvent.rootCauses
      ((pages.map (Method.tidy .describeStackEvents)).flatMap fun page : EventPage => page.events) =
      ReportedEvent.rootCauses (pages.flatMap fun page => page.events) := by
    intro pages
    rw [← ReportedEvent.rootCauses_tidied (pages.flatMap _), List.map_flatMap, List.flatMap_map]
    rfl
  have hgoes : ∀ page, EventPage.goesOn (Method.tidy .describeStackEvents page) = page.goesOn :=
    fun page => congrArg Option.isSome (filled_filled page.nextToken)
  have hnext : ∀ token page, EventPage.next token (Method.tidy .describeStackEvents page) =
      EventPage.next token page :=
    fun _ page => congrArg (Option.map some) (filled_filled page.nextToken)
  have houtcome : ∀ u : World, ((describeFailure handle).run u).outcome = (do
      let pages ← listing .describeStackEvents EventPage.goesOn
        (u.answers.tidied .describeStackEvents)
      return ReportedEvent.rootCauses (pages.flatMap fun page => page.events)) := by
    intro u
    rw [outcome_describeFailure, listing_tidied hgoes]
    cases listing .describeStackEvents EventPage.goesOn (u.answers .describeStackEvents) with
    | error e => rfl
    | ok pages => exact congrArg Except.ok (hevents pages).symm
  constructor
  · rw [houtcome, houtcome, h]
  · rw [requests_describeFailure, requests_describeFailure, ← cursors_tidied hnext, h,
      cursors_tidied hnext]

/-- The messages are the summaries of the root causes of the whole history. -/
theorem describeFailure_distils (handle : String) (w : World) :
    let r := (describeFailure handle).run w
    (∀ pages, History w.answers pages →
      r.requests = .describeStackEvents handle none ::
        (pages.dropLast.map fun page => .describeStackEvents handle page.nextToken) ∧
      r.outcome = .ok (ReportedEvent.rootCauses (pages.flatMap fun page => page.events))) ∧
    (∀ messages, r.outcome = .ok messages → ∃ pages, History w.answers pages) ∧
    (∀ v pages pages', History w.answers pages → History v.answers pages' →
      (pages.flatMap fun page => page.events) = (pages'.flatMap fun page => page.events) →
      ((describeFailure handle).run v).outcome = r.outcome) ∧
    (∀ v : World, v.answers.tidied .describeStackEvents = w.answers.tidied .describeStackEvents →
      ((describeFailure handle).run v).outcome = r.outcome ∧
      ((describeFailure handle).run v).requests = r.requests) ∧
    (∀ u v pages before after, History w.answers pages → History u.answers before →
      History v.answers after →
      (pages.flatMap fun page => page.events) =
        (before.flatMap fun page => page.events) ++ (after.flatMap fun page => page.events) →
      ∃ xs ys, ((describeFailure handle).run u).outcome = .ok xs ∧
        ((describeFailure handle).run v).outcome = .ok ys ∧ r.outcome = .ok (xs ++ ys)) := by
  refine ⟨?_, ?_, ?_, fun v => describeFailure_tidied handle, ?_⟩
  · intro pages h
    refine ⟨?_, outcome_of_history h⟩
    rw [requests_describeFailure, cursors_of_listing (history_iff.mp h), List.map_cons,
      List.map_map]
    rfl
  · intro messages h
    rw [outcome_describeFailure] at h
    obtain ⟨pages, hpages, -⟩ := bind_eq_ok_iff.mp h
    exact ⟨pages, history_iff.mpr hpages⟩
  · intro v pages pages' h h' hsame
    rw [outcome_of_history h, outcome_of_history h', hsame]
  · intro u v pages before after h hbefore hafter hsplit
    refine ⟨_, _, outcome_of_history hbefore, outcome_of_history hafter, ?_⟩
    rw [outcome_of_history h, hsplit, ReportedEvent.rootCauses_append]

end ClusterLaunch
