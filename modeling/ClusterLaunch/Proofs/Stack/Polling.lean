import ClusterLaunch.Proofs.Cloud.Requests
import ClusterLaunch.Stack.Polling

/-! # Polling a stack

The wait ends with the first poll that settles it: its answer reports no pending stack, or it
arrives when the time is up. The polls before it, and only those, are followed by a pause.
-/

namespace ClusterLaunch

open Session

/-- An answer reports a stack that is still changing. -/
def Pending (reply : Except Failure (List ReportedStack)) : Prop :=
  ∃ report rest, reply = .ok (report :: rest) ∧
    StackStatus.pendingMark.toList <:+ (report.status.getD "").toList

namespace World

/-- The world after one poll and a pause. -/
def poll (w : World) (interval : Float) : World :=
  { w with
    answers := w.answers.drop .describeStacks
    clock := w.answered .describeStacks + interval }

/-- When the answer to a poll arrives, if all polls before it are followed by a pause. -/
def arrival (interval : Float) : Nat → World → Float
  | 0, w => w.answered .describeStacks
  | i + 1, w => arrival interval i (w.poll interval)

end World

/-- A poll is the last of a wait that started at some time. -/
def Settles (interval limit start : Float) (w : World) (i : Nat) : Prop :=
  ¬ Pending (w.answers.reply .describeStacks i) ∨ limit ≤ w.arrival interval i - start

/-- What a wait comes to when it ends with an answer. -/
def waitVerdict (handle : String) (limit : Float) :
    Except Failure (List ReportedStack) → Except Failure StackStatus
  | .error e => .error e
  | .ok [] => .error (.stack (.notFound handle))
  | .ok (report :: _) =>
    let status := StackStatus.ofReported handle report
    if status.isTerminal then .ok status
    else .error (.stack (.timeout handle status.status limit))

def Event.isAction : Event → Bool
  | .logged _ => false
  | _ => true

/-- The polls of a stack, all but the last of them followed by a pause. -/
def pollEvents (handle : String) (interval : Float) (pauses : Nat) : List Event :=
  (List.replicate pauses
    [.requested (.describeStacks handle), .slept interval]).flatten ++
    [.requested (.describeStacks handle)]

theorem isTerminal_eq_false_iff {handle : String} {report : ReportedStack} :
    (StackStatus.ofReported handle report).isTerminal = false ↔
      StackStatus.pendingMark.toList <:+ (report.status.getD "").toList := by
  rw [StackStatus.isTerminal, Bool.not_eq_false', List.isSuffixOf_iff_suffix]
  rfl

theorem isTerminal_eq_true_iff {handle : String} {report : ReportedStack} :
    (StackStatus.ofReported handle report).isTerminal = true ↔
      ¬ StackStatus.pendingMark.toList <:+ (report.status.getD "").toList := by
  rw [← isTerminal_eq_false_iff, Bool.not_eq_false]

theorem settles_succ {interval limit start : Float} {w : World} {i : Nat} :
    Settles interval limit start w (i + 1) ↔
      Settles interval limit start (w.poll interval) i := by
  unfold Settles World.poll
  rw [Answers.reply_drop_self]
  rfl

/-- The wait for a stack settles at the latest when no answer is left. -/
theorem exists_settles (interval limit start : Float) (w : World) :
    ∃ i, Settles interval limit start w i := by
  refine ⟨(w.answers .describeStacks).length, .inl ?_⟩
  rintro ⟨report, rest, h, -⟩
  simp [Answers.reply] at h

def StackStatus.reported (handle : String) :
    Except Failure (List ReportedStack) → Except Failure StackStatus
  | .error e => .error e
  | .ok [] => .error (.stack (.notFound handle))
  | .ok (report :: _) => .ok (.ofReported handle report)

def World.polled (w : World) : World :=
  { w with
    answers := w.answers.drop .describeStacks
    clock := w.answered .describeStacks }

theorem run_describe (handle : String) (w : World) :
    (StackStatus.describe handle).run w =
      ⟨StackStatus.reported handle (w.answers.next .describeStacks),
        [.requested (.describeStacks handle)], w.polled⟩ := by
  rw [StackStatus.describe, run_bind, run_ask]
  cases w.answers.next .describeStacks with
  | error e => rfl
  | ok reports => cases reports <;> rfl

/-- One round of a wait. -/
theorem run_pollStack_succ (handle : String) (interval limit start : Float) (more : Nat)
    (w : World) :
    (pollStack handle interval limit start (more + 1)).run w =
      match StackStatus.reported handle (w.answers.next .describeStacks) with
      | .error e => ⟨.error e, [.requested (.describeStacks handle)], w.polled⟩
      | .ok status =>
        let record : LogRecord :=
          ⟨.debug, .polling, "Stack " ++ handle ++ " is " ++ status.status⟩
        if status.isTerminal then ⟨.ok status, [.requested (.describeStacks handle)], w.polled⟩
        else if limit ≤ w.answered .describeStacks - start then
          ⟨.error (.stack (.timeout handle status.status limit)),
            [.requested (.describeStacks handle), .logged record], w.polled⟩
        else
          let rest := (pollStack handle interval limit start more).run (w.poll interval)
          ⟨rest.outcome, [.requested (.describeStacks handle), .logged record, .slept interval] ++
            rest.events, rest.world⟩ := by
  rw [pollStack, run_bind, run_describe]
  cases StackStatus.reported handle (w.answers.next .describeStacks) with
  | error e => rfl
  | ok status =>
    dsimp only
    by_cases ht : status.isTerminal = true
    · rw [if_pos ht, if_pos ht]
      rfl
    rw [if_neg ht, if_neg ht, run_bind, run_log]
    dsimp only
    rw [run_bind, run_now]
    dsimp only
    by_cases hlimit : limit ≤ w.polled.clock - start
    · rw [if_pos hlimit]
      exact (if_pos hlimit).symm
    · rw [if_neg hlimit]
      refine Eq.trans ?_ (if_neg hlimit).symm
      rw [run_bind, run_sleep]
      rfl

/-- The run of a wait whose last poll has a number. -/
structure Polls (r : Run StackStatus) (handle : String) (interval limit : Float) (w : World)
    (n : Nat) : Prop where
  events : r.events.filter Event.isAction = pollEvents handle interval n
  outcome : r.outcome = waitVerdict handle limit (w.answers.reply .describeStacks n)
  clock : r.world.clock = w.arrival interval n
  answers : r.world.answers = w.answers.after (List.replicate (n + 1) .describeStacks)

theorem pending_iff (handle : String) {reply : Except Failure (List ReportedStack)} :
    Pending reply ↔
      ∃ status, StackStatus.reported handle reply = .ok status ∧ status.isTerminal = false := by
  constructor
  · rintro ⟨report, rest, rfl, h⟩
    exact ⟨_, rfl, isTerminal_eq_false_iff.mpr h⟩
  · rintro ⟨status, h, ht⟩
    obtain _ | _ | ⟨report, rest⟩ := reply
    · cases h
    · cases h
    · cases h
      exact ⟨report, rest, rfl, isTerminal_eq_false_iff.mp ht⟩

theorem waitVerdict_eq (handle : String) (limit : Float)
    (reply : Except Failure (List ReportedStack)) :
    waitVerdict handle limit reply = (do
      let status ← StackStatus.reported handle reply
      if status.isTerminal then .ok status
      else .error (.stack (.timeout handle status.status limit))) := by
  match reply with
  | .error _ | .ok [] | .ok (_ :: _) => rfl

/-- Only a stack that has stopped changing ends a wait with a status. -/
theorem waitVerdict_eq_ok_iff {handle : String} {limit : Float}
    {reply : Except Failure (List ReportedStack)} {status : StackStatus} :
    waitVerdict handle limit reply = .ok status ↔ ∃ report rest, reply = .ok (report :: rest) ∧
      (StackStatus.ofReported handle report).isTerminal = true ∧
      status = .ofReported handle report := by
  constructor
  · intro h
    obtain _ | _ | ⟨report, rest⟩ := reply
    · cases h
    · cases h
    rw [waitVerdict] at h
    split at h
    · rename_i hterminal
      cases h
      exact ⟨report, rest, rfl, hterminal, rfl⟩
    · cases h
  · rintro ⟨report, rest, rfl, hterminal, rfl⟩
    rw [waitVerdict, if_pos hterminal]

/-- A wait that its first poll settles ends with it. -/
theorem polls_zero {handle : String} {interval limit start : Float} {w : World} {more : Nat}
    (hmore : (w.answers .describeStacks).length ≤ more)
    (h : Settles interval limit start w 0) :
    Polls ((pollStack handle interval limit start more).run w) handle interval limit w 0 := by
  cases more with
  | zero =>
    have hw : w.answers .describeStacks = [] := List.length_eq_zero_iff.mp (Nat.le_zero.mp hmore)
    rw [pollStack, run_describe, Answers.next, Answers.reply, hw]
    exact ⟨rfl, by rw [Answers.reply, hw]; rfl, rfl, rfl⟩
  | succ more =>
    rw [run_pollStack_succ, Answers.next]
    cases hr : StackStatus.reported handle (w.answers.reply .describeStacks 0) with
    | error e => exact ⟨rfl, by rw [waitVerdict_eq, hr]; rfl, rfl, rfl⟩
    | ok status =>
      have hverdict : waitVerdict handle limit (w.answers.reply .describeStacks 0) =
          if status.isTerminal then .ok status
          else .error (.stack (.timeout handle status.status limit)) := by
        rw [waitVerdict_eq, hr]
        rfl
      dsimp only
      by_cases ht : status.isTerminal = true
      · rw [if_pos ht] at hverdict ⊢
        exact ⟨rfl, hverdict.symm, rfl, rfl⟩
      · have hpending : Pending (w.answers.reply .describeStacks 0) :=
          (pending_iff handle).mpr ⟨status, hr, Bool.not_eq_true _ ▸ ht⟩
        have hlimit : limit ≤ w.answered .describeStacks - start :=
          h.resolve_left (not_not.mpr hpending)
        rw [if_neg ht] at hverdict ⊢
        rw [if_pos hlimit]
        exact ⟨rfl, hverdict.symm, rfl, rfl⟩

/-- A poll that does not settle the wait is followed by a pause and the rest of the wait. -/
theorem polls_succ {handle : String} {interval limit start : Float} {w : World} {more n : Nat}
    (h : ¬ Settles interval limit start w 0)
    (hrest : Polls ((pollStack handle interval limit start more).run (w.poll interval)) handle
      interval limit (w.poll interval) n) :
    Polls ((pollStack handle interval limit start (more + 1)).run w) handle interval limit w
      (n + 1) := by
  obtain ⟨hpending, hlimit⟩ := not_or.mp h
  have hlimit : ¬ limit ≤ w.answered .describeStacks - start := hlimit
  obtain ⟨status, hr, ht⟩ := (pending_iff handle).mp (not_not.mp hpending)
  rw [run_pollStack_succ, Answers.next, hr]
  dsimp only
  rw [if_neg (by rw [ht]; decide), if_neg hlimit]
  refine ⟨?_, ?_, hrest.clock, hrest.answers⟩
  · rw [List.filter_append, hrest.events]
    rfl
  · rw [hrest.outcome, ← Answers.reply_drop_self]
    rfl

/-- The invariant of the rounds: the rest of a wait settles one poll earlier. -/
theorem polls_of_isLeast {handle : String} {interval limit start : Float} {n : Nat} {w : World}
    {more : Nat} (hmore : (w.answers .describeStacks).length ≤ more)
    (hn : IsLeast {i | Settles interval limit start w i} n) :
    Polls ((pollStack handle interval limit start more).run w) handle interval limit w n := by
  induction n generalizing w more with
  | zero => exact polls_zero hmore hn.1
  | succ n ih =>
    have h : ¬ Settles interval limit start w 0 := fun h => Nat.not_succ_le_zero n (hn.2 h)
    have hleast : IsLeast {i | Settles interval limit start (w.poll interval) i} n :=
      ⟨settles_succ.mp hn.1, fun i hi => Nat.le_of_succ_le_succ (hn.2 (settles_succ.mpr hi))⟩
    cases more with
    | zero =>
      have hw : w.answers .describeStacks = [] :=
        List.length_eq_zero_iff.mp (Nat.le_zero.mp hmore)
      refine absurd (.inl ?_) h
      rintro ⟨_, _, hreply, -⟩
      rw [Answers.reply, hw] at hreply
      cases hreply
    | succ more =>
      have htail : (w.poll interval).answers .describeStacks =
          (w.answers .describeStacks).tail := Answers.drop_self w.answers .describeStacks
      refine polls_succ h (ih ?_ hleast)
      rw [htail, List.length_tail]
      omega

/-- Every wait has a last poll, and all polls before it find the stack pending. -/
theorem exists_last_poll (handle : String) (interval limit : Float) (w : World) :
    ∃ n, (∀ i < n, Pending (w.answers.reply .describeStacks i)) ∧
      Polls ((waitForStack handle interval limit).run w) handle interval limit w n := by
  classical
  have hex := exists_settles interval limit w.clock w
  refine ⟨Nat.find hex, fun i hi => ?_, polls_of_isLeast le_rfl (Nat.isLeast_find hex)⟩
  exact not_not.mp fun hnot => Nat.find_min hex hi (.inl hnot)

theorem exists_polls (handle : String) (interval limit : Float) (w : World) :
    ∃ n, Polls ((waitForStack handle interval limit).run w) handle interval limit w n :=
  have ⟨n, _, h⟩ := exists_last_poll handle interval limit w
  ⟨n, h⟩

/-- A wait polls until the first poll that settles it, with a pause after each poll before, and
comes to what the answer to that poll says. -/
theorem waitForStack_settles {handle : String} {interval limit : Float} {w : World} {n : Nat}
    (hn : IsLeast {i | Settles interval limit w.clock w i} n) :
    let r := (waitForStack handle interval limit).run w
    r.events.filter Event.isAction =
        (List.replicate n [.requested (.describeStacks handle), .slept interval]).flatten ++
          [.requested (.describeStacks handle)] ∧
      r.outcome = waitVerdict handle limit (w.answers.reply .describeStacks n) ∧
      r.world.clock = w.arrival interval n := by
  have h : Polls ((waitForStack handle interval limit).run w) handle interval limit w n :=
    polls_of_isLeast le_rfl hn
  exact ⟨h.events, h.outcome, h.clock⟩

/-- A stack that completes just after the time is up. -/
def World.late : World where
  answers
    | .describeStacks =>
      [⟨1.0, .ok [⟨none, some "CREATE_IN_PROGRESS", none⟩]⟩,
        ⟨1.0, .ok [⟨none, some "CREATE_IN_PROGRESS", none⟩]⟩,
        ⟨1.0, .ok [⟨none, some "CREATE_COMPLETE", none⟩]⟩]
    | _ => []

theorem waitForStack_settles_late :
    IsLeast {i | Settles 3.0 5.0 World.late.clock World.late i} 1 ∧
      ((waitForStack "blue" 3.0 5.0).run World.late).outcome =
        .error (.stack (.timeout "blue" "CREATE_IN_PROGRESS" 5.0)) := by
  have hn : IsLeast {i | Settles 3.0 5.0 World.late.clock World.late i} 1 := by
    refine ⟨.inr (by decide), fun i hi => Nat.one_le_iff_ne_zero.mpr ?_⟩
    rintro rfl
    refine hi.elim (fun h => h ⟨_, _, rfl, by decide⟩) (by decide)
  exact ⟨hn, (waitForStack_settles hn).2.1⟩

end ClusterLaunch
