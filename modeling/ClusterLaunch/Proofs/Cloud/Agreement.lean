import ClusterLaunch.Proofs.Cloud.Inquiry

/-! # Worlds that agree

A session that asks only some methods and never looks at the clock cannot tell worlds apart that
agree on those methods. Inquiries are such sessions.
-/

namespace ClusterLaunch

variable {α β : Type} {S : Set Method}

/-- Two worlds give the same answers to some methods, and clients can be made in both or in
neither. -/
structure World.Agree (S : Set Method) (w v : World) : Prop where
  answers : ∀ m ∈ S, w.answers m = v.answers m
  connection : w.connection = v.connection

theorem World.Agree.refl (S : Set Method) (w : World) : w.Agree S w := ⟨fun _ _ => rfl, rfl⟩

/-- Two runs that cannot be told apart, but by the worlds that they leave. -/
structure Run.Agree (S : Set Method) (r s : Run α) : Prop where
  outcome : r.outcome = s.outcome
  events : r.events = s.events
  world : r.world.Agree S s.world

namespace Session

/-- A session depends on the answers of some methods only, and asks no others. -/
structure Reads (S : Set Method) (x : Session α) : Prop where
  methods : ∀ {w m}, m ∈ (x.run w).methods → m ∈ S
  agree : ∀ {w v}, w.Agree S v → (x.run w).Agree S (x.run v)

variable {x : Session α} {f : α → Session β}

/-- A session that asks nothing, leaves the world as it is and does the same in all worlds. -/
theorem reads_of_const {o : Except Failure α} {events : List Event}
    (hr : events.filterMap Event.request? = []) (h : ∀ w, x.run w = ⟨o, events, w⟩) :
    Reads S x where
  methods := by
    intro w m hm
    rw [h, Run.methods, Run.requests, hr] at hm
    cases hm
  agree := by
    intro w v hwv
    rw [h, h]
    exact ⟨rfl, rfl, hwv⟩

theorem reads_pure (a : α) : Reads S (pure a) := reads_of_const rfl fun _ => rfl

theorem reads_fail (e : Failure) : Reads S (fail e : Session α) := reads_of_const rfl fun _ => rfl

theorem reads_log (level : Level) (origin : Origin) (message : String) :
    Reads S (log level origin message) := reads_of_const rfl fun _ => rfl

theorem reads_complain (line : String) : Reads S (complain line) := reads_of_const rfl fun _ => rfl

theorem reads_ofResult (o : Except Failure α) : Reads S (ofResult o) :=
  reads_of_const rfl (run_ofResult o)

theorem run_connect (region : String) (profile : Option String) (w : World) :
    (connect region profile).run w =
      ⟨w.connection.elim (.ok ()) .error, [.connected region profile], w⟩ := by
  obtain ⟨answers, clock, connection⟩ := w
  cases connection <;> rfl

theorem reads_connect (region : String) (profile : Option String) :
    Reads S (connect region profile) where
  methods := by
    intro w m hm
    cases hm
  agree := by
    intro w v h
    have hconnection : (w.connection.elim (.ok ()) .error : Except Failure Unit) =
        v.connection.elim (.ok ()) .error := by rw [h.connection]
    rw [run_connect, run_connect]
    exact ⟨hconnection, rfl, h⟩

theorem reads_remaining {m : Method} (hm : m ∈ S) : Reads S (remaining m) where
  methods := by
    intro w m' hm'
    cases hm'
  agree := by
    intro w v h
    refine ⟨?_, rfl, h⟩
    change Except.ok (w.answers m).length = .ok (v.answers m).length
    rw [h.answers m hm]

theorem reads_ask {r : Request} (hr : r.method ∈ S) : Reads S (ask r) where
  methods := by
    intro w m hm
    rw [methods_ask] at hm
    exact List.mem_singleton.mp hm ▸ hr
  agree := by
    intro w v h
    rw [run_ask, run_ask]
    refine ⟨Answers.next_congr (h.answers _ hr), rfl, fun m hm => ?_, h.connection⟩
    change w.answers.drop r.method m = v.answers.drop r.method m
    unfold Answers.drop
    rw [h.answers m hm]

theorem Reads.reword (hx : Reads S x) (codes : List String) (e : Failure) :
    Reads S (x.reword codes e) where
  methods := by
    intro w m hm
    rw [run_reword] at hm
    exact hx.methods hm
  agree := by
    intro w v h
    have hxy := hx.agree h
    rw [run_reword, run_reword, hxy.outcome]
    exact ⟨rfl, hxy.events, hxy.world⟩

theorem Reads.bind (hx : Reads S x) (hf : ∀ a, Reads S (f a)) : Reads S (x >>= f) where
  methods := by
    intro w m hm
    obtain ⟨r, hr, rfl⟩ := List.mem_map.mp hm
    rcases mem_requests_bind hr with hr | ⟨a, -, hr⟩
    · exact hx.methods (List.mem_map_of_mem hr)
    · exact (hf a).methods (List.mem_map_of_mem hr)
  agree := by
    intro w v h
    have hxy := hx.agree h
    cases hv : (x.run v).outcome with
    | error e =>
      rw [run_bind_error hv, run_bind_error (hxy.outcome.trans hv)]
      exact ⟨rfl, hxy.events, hxy.world⟩
    | ok a =>
      have hfa := (hf a).agree hxy.world
      rw [run_bind_ok hv, run_bind_ok (hxy.outcome.trans hv), hxy.events, hfa.events]
      exact ⟨hfa.outcome, rfl, hfa.world⟩

theorem Reads.rescue {handle : Failure → Session α} (hx : Reads S x)
    (hh : ∀ e, Reads S (handle e)) : Reads S (x.rescue handle) where
  methods := by
    intro w m hm
    cases hw : (x.run w).outcome with
    | ok a =>
      rw [run_rescue_ok hw] at hm
      exact hx.methods hm
    | error e =>
      rw [run_rescue_error hw, Run.methods, Run.requests, List.filterMap_append,
        List.map_append] at hm
      rcases List.mem_append.mp hm with hm | hm
      · exact hx.methods hm
      · exact (hh e).methods hm
  agree := by
    intro w v h
    have hxy := hx.agree h
    cases hv : (x.run v).outcome with
    | ok a =>
      rw [run_rescue_ok hv, run_rescue_ok (hxy.outcome.trans hv)]
      exact hxy
    | error e =>
      have hhe := (hh e).agree hxy.world
      rw [run_rescue_error hv, run_rescue_error (hxy.outcome.trans hv), hxy.events, hhe.events]
      exact ⟨hhe.outcome, rfl, hhe.world⟩

theorem Inquiry.reads {σ : Method → Failure → Failure} (hx : Inquiry S σ x) : Reads S x := by
  induction hx with
  | pure a => exact reads_pure a
  | fail e => exact reads_fail e
  | log level origin message => exact reads_log level origin message
  | remaining hm => exact reads_remaining hm
  | ask r hr hσ => exact reads_ask hr
  | reword r hr hσ => exact (reads_ask hr).reword _ _
  | bind _ _ ihx ihf => exact ihx.bind ihf

end Session

end ClusterLaunch
