import ClusterLaunch.Proofs.Cloud.Faults
import ClusterLaunch.Proofs.Cloud.Pages

/-! # Fair answers

A service replies, turns a request down or cannot be reached. Requests and listings that find only
such answers fail in no other way, unless there are no answers left.
-/

namespace ClusterLaunch

/-- A failure that a service can answer with. -/
inductive Failure.OfService : Failure → Prop
  | rejected (r : Rejection) : OfService (.rejected r)
  | disrupted (d : Disruption) : OfService (.disrupted d)
  | unreached (message : String) : OfService (.unreached message)

theorem Failure.OfService.isReported {e : Failure} (h : e.OfService) : e.isReported = true := by
  cases h <;> rfl

/-- A failure of a request: the service answers with it, or there is no answer. -/
inductive Failure.OfRequest : Failure → Prop
  | service {e : Failure} (h : e.OfService) : OfRequest e
  | exhausted (m : Method) : OfRequest (.exhausted m)

/-- A failure that the tools report, or a lack of answers. -/
inductive Failure.Foreseen : Failure → Prop
  | reported {e : Failure} (h : e.isReported = true) : Foreseen e
  | exhausted (m : Method) : Foreseen (.exhausted m)

theorem Failure.OfRequest.foreseen {e : Failure} (h : e.OfRequest) : e.Foreseen := by
  rcases h with h | m
  · exact .reported h.isReported
  · exact .exhausted m

/-- Another wording that is foreseen leaves the failures of a request foreseen. -/
theorem Failure.OfRequest.reworded {e e' : Failure} (h : e.OfRequest) (codes : List String)
    (he' : e'.Foreseen) : (Failure.reworded codes e' e).Foreseen := by
  cases e with
  | rejected r =>
    simp only [Failure.reworded]
    split
    · exact he'
    · exact h.foreseen
  | _ => exact h.foreseen

/-- All answers of a method that are failures are failures of the service. -/
def Answers.Fair (a : Answers) (m : Method) : Prop :=
  ∀ answer ∈ a m, FailsWith Failure.OfService answer.result

variable {a : Answers} {m : Method}

theorem Answers.Fair.drop (h : a.Fair m) (n : ℕ) {b : Answers} (hb : b m = (a m).drop n) :
    b.Fair m := by
  intro answer hanswer
  rw [hb] at hanswer
  exact h answer (List.mem_of_mem_drop hanswer)

theorem Answers.Fair.reply (h : a.Fair m) (i : ℕ) : FailsWith Failure.OfRequest (a.reply m i) := by
  unfold Answers.reply
  cases hi : (a m)[i]? with
  | none => exact failsWith_error (.exhausted m)
  | some answer => exact fun e he => .service (h answer (List.mem_of_getElem? hi) e he)

theorem failsWith_listing {goesOn : m.Reply → Bool} {answers : List (Answer m.Reply)}
    (h : ∀ answer ∈ answers, FailsWith Failure.OfService answer.result) :
    FailsWith Failure.OfRequest (listing m goesOn answers) := by
  induction answers with
  | nil => exact failsWith_error (.exhausted m)
  | cons answer rest ih =>
    obtain ⟨hanswer, hrest⟩ := List.forall_mem_cons.mp h
    refine FailsWith.bind (fun e he => .service (hanswer e he)) fun page _ => ?_
    split
    · exact (ih hrest).bind fun _ _ => failsWith_ok _
    · exact failsWith_ok _

namespace Session

variable {α β : Type} {P : Failure → Prop} {x : Session α} {f : α → Session β} {w : World}

end Session

end ClusterLaunch
