import ClusterLaunch.Proofs.Cloud.Requests

/-! # Inquiries

An inquiry asks services and keeps a log, and nothing else. Whatever the steps of inquiries do and
two sessions in a row keep, all inquiries do. A course is made of inquiries, of pauses and of lines.
-/

namespace ClusterLaunch

def Event.complaint? : Event → Option String
  | .complained line => some line
  | _ => none

/-- What a run writes to the standard error stream, apart from the log. -/
def Run.complaints {α : Type} (r : Run α) : List String := r.events.filterMap Event.complaint?

namespace Session

variable {α β κ : Type} {S : Set Method} {σ : Method → Failure → Failure}

theorem complaints_bind_ok {x : Session α} {f : α → Session β} {w : World} {a : α}
    (h : (x.run w).outcome = .ok a) :
    ((x >>= f).run w).complaints =
      (x.run w).complaints ++ ((f a).run (x.run w).world).complaints := by
  rw [run_bind_ok h]
  exact List.filterMap_append

theorem complaints_print_bind (line : String) (g : Unit → Session β) (w : World) :
    ((print line >>= g).run w).complaints = ((g ()).run w).complaints := rfl

theorem complaints_complain_bind (line : String) (g : Unit → Session β) (w : World) :
    ((complain line >>= g).run w).complaints = line :: ((g ()).run w).complaints :=
  complaints_bind_ok rfl

/-- Sessions that ask methods of a set and keep a log. A method may have another wording for some
of its failures. -/
inductive Inquiry (S : Set Method) (σ : Method → Failure → Failure) :
    {α : Type} → Session α → Prop
  | pure {α : Type} (a : α) : Inquiry S σ (pure a)
  | fail {α : Type} (e : Failure) : Inquiry S σ (fail e : Session α)
  | log (level : Level) (origin : Origin) (message : String) :
      Inquiry S σ (log level origin message)
  | remaining {m : Method} (hm : m ∈ S) : Inquiry S σ (remaining m)
  | ask (r : Request) (hr : r.method ∈ S) (hσ : σ r.method = id) : Inquiry S σ (ask r)
  | reword (r : Request) (hr : r.method ∈ S) {codes : List String} {e : Failure}
      (hσ : σ r.method = Failure.reworded codes e) : Inquiry S σ ((ask r).reword codes e)
  | bind {α β : Type} {x : Session α} {f : α → Session β} (hx : Inquiry S σ x)
      (hf : ∀ a, Inquiry S σ (f a)) : Inquiry S σ (x >>= f)

theorem inquiry_ofResult (r : Except Failure α) : Inquiry S σ (ofResult r) := by
  cases r with
  | error e => exact .fail e
  | ok a => exact .pure a

theorem inquiry_forM {ι : Type} {f : ι → Session Unit} (hf : ∀ i, Inquiry S σ (f i))
    (is : List ι) : Inquiry S σ (is.forM f) := by
  induction is with
  | nil => exact .pure ()
  | cons i is ih => exact .bind (hf i) fun _ => ih

section Pages

variable {m : Method} {fetch : κ → Session m.Reply} {next : κ → m.Reply → Option κ}

theorem inquiry_pages (hf : ∀ k, Inquiry S σ (fetch k)) (more : ℕ) (k : κ) :
    Inquiry S σ (pages fetch next more k) := by
  induction more generalizing k with
  | zero => exact .bind (hf k) fun page => .pure [page]
  | succ more ih =>
    apply Inquiry.bind (hf k)
    intro page
    cases next k page with
    | none => exact .pure [page]
    | some k' => exact .bind (ih k') fun rest => .pure (page :: rest)

theorem inquiry_allPages (hm : m ∈ S) (hf : ∀ k, Inquiry S σ (fetch k)) (k : κ) :
    Inquiry S σ (allPages m fetch next k) :=
  .bind (.remaining hm) fun more => inquiry_pages hf more k

end Pages

/-- An inquiry makes requests of its methods and log records. -/
theorem Inquiry.events {x : Session α} (hx : Inquiry S σ x) {w : World} {e : Event}
    (he : e ∈ (x.run w).events) :
    (∃ r, e = .requested r ∧ r.method ∈ S) ∨ ∃ record, e = .logged record := by
  induction hx generalizing w with
  | pure a => cases he
  | fail e => cases he
  | log level origin message => exact .inr ⟨_, List.mem_singleton.mp he⟩
  | remaining hm => cases he
  | ask r hr hσ =>
    rw [run_ask] at he
    exact .inl ⟨r, List.mem_singleton.mp he, hr⟩
  | reword r hr hσ =>
    rw [run_reword, run_ask] at he
    exact .inl ⟨r, List.mem_singleton.mp he, hr⟩
  | @bind _ _ x f _ _ ihx ihf =>
    cases h : (x.run w).outcome with
    | error e =>
      rw [run_bind_error h] at he
      exact ihx he
    | ok a =>
      rw [run_bind_ok h] at he
      rcases List.mem_append.mp he with he | he
      · exact ihx he
      · exact ihf a he

theorem Inquiry.complaints {x : Session α} (hx : Inquiry S σ x) (w : World) :
    (x.run w).complaints = [] := by
  apply List.filterMap_eq_nil_iff.mpr
  intro e he
  rcases hx.events he with ⟨r, rfl, -⟩ | ⟨record, rfl⟩ <;> rfl

/-- Sessions that inquire, look at the clock, sleep and write lines. -/
inductive Course (S : Set Method) (σ : Method → Failure → Failure) :
    {α : Type} → Session α → Prop
  | inquiry {α : Type} {x : Session α} (hx : Inquiry S σ x) : Course S σ x
  | print (line : String) : Course S σ (print line)
  | complain (line : String) : Course S σ (complain line)
  | now : Course S σ now
  | sleep (seconds : Float) : Course S σ (sleep seconds)
  | bind {α β : Type} {x : Session α} {f : α → Session β} (hx : Course S σ x)
      (hf : ∀ a, Course S σ (f a)) : Course S σ (x >>= f)

theorem course_forM {ι : Type} {f : ι → Session Unit} (hf : ∀ i, Course S σ (f i))
    (is : List ι) : Course S σ (is.forM f) := by
  induction is with
  | nil => exact .inquiry (.pure ())
  | cons i is ih => exact .bind (hf i) fun _ => ih

end Session

end ClusterLaunch
