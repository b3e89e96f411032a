import ClusterLaunch.Proofs.Cloud.Inquiry

/-! # Sessions without their output

The lines on the standard output are forgotten. What is left of two sessions in a row is what is
left of each, so sessions that differ in these lines alone become equal.
-/

namespace ClusterLaunch

variable {α β : Type}

def Event.isPrinted : Event → Bool
  | .printed _ => true
  | _ => false

/-- A run without the lines on the standard output. -/
def Run.hushed (r : Run α) : Run α :=
  { r with events := r.events.filter fun e => !e.isPrinted }

/-- What a filter keeps of a run is left of the hushed run if it keeps no printed line. -/
theorem Run.filter_hushed (r : Run α) {p : Event → Bool}
    (hp : ∀ line, p (.printed line) = false) : r.hushed.events.filter p = r.events.filter p := by
  rw [hushed, List.filter_filter]
  apply List.filter_congr
  intro e _
  cases e with
  | printed line => rw [hp, Bool.false_and]
  | _ => exact Bool.and_true _

theorem Run.filterMap_hushed (r : Run α) {γ : Type} {f : Event → Option γ}
    (hf : ∀ line, f (.printed line) = none) :
    r.hushed.events.filterMap f = r.events.filterMap f := by
  rw [hushed, List.filterMap_filter]
  congr 1
  funext e
  cases e with
  | printed line => rw [hf]; rfl
  | _ => rfl

theorem Run.complaints_hushed (r : Run α) : r.hushed.complaints = r.complaints :=
  r.filterMap_hushed fun _ => rfl

theorem Run.requests_hushed (r : Run α) : r.hushed.requests = r.requests :=
  r.filterMap_hushed fun _ => rfl

theorem Run.methods_hushed (r : Run α) : r.hushed.methods = r.methods :=
  congrArg (List.map Request.method) r.requests_hushed

namespace Session

def hushed (x : Session α) : Session α := ⟨fun w => (x.run w).hushed⟩

theorem hushed_eq_self {x : Session α} (h : ∀ w, ∀ e ∈ (x.run w).events, e.isPrinted = false) :
    x.hushed = x := by
  ext w : 1
  have hevents : ((x.run w).events.filter fun e => !e.isPrinted) = (x.run w).events := by
    apply List.filter_eq_self.mpr
    intro e he
    rw [h w e he]
    rfl
  change (x.run w).hushed = x.run w
  rw [Run.hushed, hevents]

theorem Inquiry.hushed {S : Set Method} {σ : Method → Failure → Failure} {x : Session α}
    (hx : Inquiry S σ x) : x.hushed = x := by
  apply hushed_eq_self
  intro w e he
  rcases hx.events he with ⟨r, rfl, -⟩ | ⟨record, rfl⟩ <;> rfl

@[simp] theorem hushed_pure (a : α) : (pure a : Session α).hushed = pure a := rfl

@[simp] theorem hushed_print (line : String) : (print line).hushed = pure () := rfl

@[simp] theorem hushed_log (level : Level) (origin : Origin) (message : String) :
    (log level origin message).hushed = log level origin message := rfl

@[simp] theorem hushed_connect (region : String) (profile : Option String) :
    (connect region profile).hushed = connect region profile := rfl

@[simp] theorem hushed_ofResult (o : Except Failure α) : (ofResult o).hushed = ofResult o := by
  cases o <;> rfl

@[simp] theorem hushed_bind (x : Session α) (f : α → Session β) :
    (x >>= f).hushed = x.hushed >>= fun a => (f a).hushed := by
  ext w : 1
  change ((x >>= f).run w).hushed = _
  cases h : (x.run w).outcome with
  | error e =>
    have hhushed : (x.hushed.run w).outcome = .error e := h
    rw [run_bind_error h, run_bind_error hhushed]
    rfl
  | ok a =>
    have hhushed : (x.hushed.run w).outcome = .ok a := h
    rw [run_bind_ok h, run_bind_ok hhushed, Run.hushed, List.filter_append]
    rfl

@[simp] theorem hushed_rescue (x : Session α) (handle : Failure → Session α) :
    (x.rescue handle).hushed = x.hushed.rescue fun e => (handle e).hushed := by
  ext w : 1
  change ((x.rescue handle).run w).hushed = _
  cases h : (x.run w).outcome with
  | ok a =>
    have hhushed : (x.hushed.run w).outcome = .ok a := h
    rw [run_rescue_ok h, run_rescue_ok hhushed]
    rfl
  | error e =>
    have hhushed : (x.hushed.run w).outcome = .error e := h
    rw [run_rescue_error h, run_rescue_error hhushed, Run.hushed, List.filter_append]
    rfl

end Session

end ClusterLaunch
