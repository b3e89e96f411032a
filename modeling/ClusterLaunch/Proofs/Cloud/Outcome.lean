import ClusterLaunch.Cloud.Session
import ClusterLaunch.Proofs.Guard

/-! # What sessions come to

The outcome of a session depends only on the outcomes of its parts. A request comes to the next
answer of its method, whatever has been asked of the other methods before.
-/

namespace ClusterLaunch

/-- What the request number `i` of a method comes to, counted from 0. -/
def Answers.reply (a : Answers) (m : Method) (i : Nat) : Except Failure m.Reply :=
  match (a m)[i]? with
  | some answer => answer.result
  | none => .error (.exhausted m)

def Answers.next (a : Answers) (m : Method) : Except Failure m.Reply := a.reply m 0

theorem Answers.reply_congr {a b : Answers} {m : Method} (h : a m = b m) (i : Nat) :
    a.reply m i = b.reply m i := by
  rw [reply, h]
  rfl

theorem Answers.next_congr {a b : Answers} {m : Method} (h : a m = b m) :
    a.next m = b.next m := reply_congr h 0

theorem Answers.reply_drop_self (a : Answers) (m : Method) (i : Nat) :
    (a.drop m).reply m i = a.reply m (i + 1) := by
  rw [reply, drop_self, List.getElem?_tail, reply]

def World.answered (w : World) (m : Method) : Float :=
  match w.answers m with
  | [] => w.clock
  | answer :: _ => w.clock + answer.delay

/-- A failure after a rejection with one of some codes got another wording. -/
def Failure.reworded (codes : List String) (e : Failure) : Failure → Failure
  | .rejected r => if r.hasCode codes then e else .rejected r
  | f => f

namespace Session

variable {α β : Type}

@[simp] theorem run_log (level : Level) (origin : Origin) (message : String) (w : World) :
    (log level origin message).run w = ⟨.ok (), [.logged ⟨level, origin, message⟩], w⟩ := rfl

@[simp] theorem run_now (w : World) : now.run w = ⟨.ok w.clock, [], w⟩ := rfl

@[simp] theorem run_sleep (seconds : Float) (w : World) :
    (sleep seconds).run w =
      ⟨.ok (), [.slept seconds], { w with clock := w.clock + seconds }⟩ := rfl

@[simp] theorem run_ofResult (x : Except Failure α) (w : World) :
    (ofResult x).run w = ⟨x, [], w⟩ := by
  cases x <;> rfl

theorem ofResult_ok (a : α) : ofResult (.ok a) = pure a := rfl

theorem outcome_bind (x : Session α) (f : α → Session β) (w : World) :
    ((x >>= f).run w).outcome =
      (x.run w).outcome >>= fun a => ((f a).run (x.run w).world).outcome := by
  rw [run_bind]
  cases (x.run w).outcome <;> rfl

theorem outcome_log_bind (level : Level) (origin : Origin) (message : String)
    (f : Unit → Session β) (w : World) :
    ((log level origin message >>= f).run w).outcome = ((f ()).run w).outcome := by
  rw [outcome_bind]
  rfl

theorem outcome_bind_eq_ok_iff {x : Session α} {f : α → Session β} {w : World} {b : β} :
    ((x >>= f).run w).outcome = .ok b ↔
      ∃ a, (x.run w).outcome = .ok a ∧ ((f a).run (x.run w).world).outcome = .ok b := by
  rw [outcome_bind]
  cases (x.run w).outcome with
  | error e => simp [bind, Except.bind]
  | ok a => simp [bind, Except.bind]

theorem run_reword (x : Session α) (codes : List String) (e : Failure) (w : World) :
    (x.reword codes e).run w =
      ⟨(x.run w).outcome.mapError (Failure.reworded codes e), (x.run w).events,
        (x.run w).world⟩ := by
  unfold reword rescue
  cases h : (x.run w).outcome with
  | ok a => simp [h, mapError_ok]
  | error f => cases f <;> simp [h, mapError_error, Failure.reworded]

theorem run_rescue_ok {x : Session α} {handle : Failure → Session α} {w : World} {a : α}
    (h : (x.run w).outcome = .ok a) : (x.rescue handle).run w = x.run w := by
  unfold rescue
  simp only [h]
  rw [← h]

theorem run_rescue_error {x : Session α} {handle : Failure → Session α} {w : World} {e : Failure}
    (h : (x.run w).outcome = .error e) :
    (x.rescue handle).run w = ⟨((handle e).run (x.run w).world).outcome,
      (x.run w).events ++ ((handle e).run (x.run w).world).events,
      ((handle e).run (x.run w).world).world⟩ := by
  unfold rescue
  simp only [h]

theorem run_ask (r : Request) (w : World) :
    (ask r).run w = ⟨w.answers.next r.method, [.requested r],
      { w with
        answers := w.answers.drop r.method
        clock := w.answered r.method }⟩ := by
  unfold ask Answers.next Answers.reply World.answered
  cases h : w.answers r.method with
  | nil =>
    have hdrop : w.answers.drop r.method = w.answers := by
      funext m
      by_cases hm : m = r.method
      · subst hm
        rw [Answers.drop_self, h]
        rfl
      · exact Answers.drop_of_ne _ hm
    simp [h, hdrop]
  | cons answer rest => simp [h]

theorem answers_ask_of_ne (r : Request) {m : Method} (h : m ≠ r.method) (w : World) :
    ((ask r).run w).world.answers m = w.answers m := by
  rw [run_ask]
  exact Answers.drop_of_ne w.answers h

@[simp] theorem outcome_ask (r : Request) (w : World) :
    ((ask r).run w).outcome = w.answers.next r.method := by
  rw [run_ask]

end Session

end ClusterLaunch
