import ClusterLaunch.Cloud.Request

/-! # Sessions

A session asks services, waits, writes lines and keeps a log. What it does is recorded in order,
and a failure ends it at once. Time passes only while a service answers and while it sleeps.
-/

namespace ClusterLaunch

/-- How much a log record matters. -/
inductive Level where
  | debug
  | info
  | warning
  | error
  | critical
  deriving DecidableEq, Repr

namespace Level

def rank : Level → Nat
  | debug => 10
  | info => 20
  | warning => 30
  | error => 40
  | critical => 50

def name : Level → String
  | debug => "DEBUG"
  | info => "INFO"
  | warning => "WARNING"
  | error => "ERROR"
  | critical => "CRITICAL"

end Level

/-- The part of the program that writes a log record. -/
inductive Origin where
  | configuration
  | network
  | identity
  | dns
  | preflight
  | orchestration
  | polling
  deriving DecidableEq, Repr

def Origin.name : Origin → String
  | configuration => "kube_stack._cluster_config"
  | network => "kube_stack._network_validation"
  | identity => "kube_stack._identity_validation"
  | dns => "kube_stack._dns_validation"
  | preflight => "kube_stack._preflight"
  | orchestration => "kube_stack._stack_orchestration"
  | polling => "kube_stack._stack_polling"

structure LogRecord where
  level : Level
  origin : Origin
  message : String
  deriving DecidableEq, Repr

inductive Event where
  /-- Clients of the services are made for a region and a profile. -/
  | connected (region : String) (profile : Option String)
  | requested (r : Request)
  | slept (seconds : Float)
  /-- A line is written to the standard output. -/
  | printed (line : String)
  /-- A line is written to the standard error stream. -/
  | complained (line : String)
  | logged (r : LogRecord)

/-- The services and the clock. -/
structure World where
  answers : Answers
  clock : Float := 0.0
  /-- Why no client can be made, if so. -/
  connection : Option Failure := none

/-- A finished session. -/
structure Run (α : Type) where
  outcome : Except Failure α
  events : List Event
  world : World

/-- A computation that talks to the services. -/
structure Session (α : Type) where
  run : World → Run α

namespace Session

variable {α β γ κ ρ : Type}

@[ext] theorem ext {x y : Session α} (h : ∀ w, x.run w = y.run w) : x = y := by
  cases x; cases y
  congr
  exact funext h

protected def pure (a : α) : Session α := ⟨fun w => ⟨.ok a, [], w⟩⟩

protected def bind (x : Session α) (f : α → Session β) : Session β :=
  ⟨fun w =>
    let first := x.run w
    match first.outcome with
    | .error e => ⟨.error e, first.events, first.world⟩
    | .ok a =>
      let second := (f a).run first.world
      ⟨second.outcome, first.events ++ second.events, second.world⟩⟩

def fail (e : Failure) : Session α := ⟨fun w => ⟨.error e, [], w⟩⟩

def rescue (x : Session α) (handle : Failure → Session α) : Session α :=
  ⟨fun w =>
    let first := x.run w
    match first.outcome with
    | .ok a => ⟨.ok a, first.events, first.world⟩
    | .error e =>
      let second := (handle e).run first.world
      ⟨second.outcome, first.events ++ second.events, second.world⟩⟩

instance : Monad Session where
  pure := Session.pure
  bind := Session.bind

instance : MonadExcept Failure Session where
  throw := fail
  tryCatch := rescue

@[simp] theorem run_pure (a : α) (w : World) : (pure a : Session α).run w = ⟨.ok a, [], w⟩ := rfl

@[simp] theorem run_fail (e : Failure) (w : World) :
    (fail e : Session α).run w = ⟨.error e, [], w⟩ := rfl

@[simp] theorem throw_eq (e : Failure) : (throw e : Session α) = fail e := rfl

theorem run_bind (x : Session α) (f : α → Session β) (w : World) :
    (x >>= f).run w = match (x.run w).outcome with
      | .error e => ⟨.error e, (x.run w).events, (x.run w).world⟩
      | .ok a => ⟨((f a).run (x.run w).world).outcome,
          (x.run w).events ++ ((f a).run (x.run w).world).events,
          ((f a).run (x.run w).world).world⟩ := rfl

theorem run_bind_ok {x : Session α} {f : α → Session β} {w : World} {a : α}
    (h : (x.run w).outcome = .ok a) :
    (x >>= f).run w = ⟨((f a).run (x.run w).world).outcome,
      (x.run w).events ++ ((f a).run (x.run w).world).events,
      ((f a).run (x.run w).world).world⟩ := by
  rw [run_bind, h]

theorem run_bind_error {x : Session α} {f : α → Session β} {w : World} {e : Failure}
    (h : (x.run w).outcome = .error e) :
    (x >>= f).run w = ⟨.error e, (x.run w).events, (x.run w).world⟩ := by
  rw [run_bind, h]

instance : LawfulMonad Session := LawfulMonad.mk'
  Session
  (fun x => by
    ext w : 1
    change (x >>= fun a => pure (id a)).run w = x.run w
    rw [run_bind]
    cases h : x.run w with
    | mk outcome events world => cases outcome <;> simp)
  (fun a f => by
    ext w : 1
    rw [run_bind]
    simp)
  (fun x f g => by
    ext w : 1
    cases h : (x.run w).outcome with
    | error e =>
      rw [run_bind_error (by rw [run_bind_error h]), run_bind_error h, run_bind_error h]
    | ok a =>
      rw [run_bind_ok h]
      cases h' : ((f a).run (x.run w).world).outcome with
      | error e =>
        rw [run_bind_error (by rw [run_bind_ok h]; exact h'), run_bind_error h', run_bind_ok h]
      | ok b =>
        rw [run_bind_ok (by rw [run_bind_ok h]; exact h'), run_bind_ok h', run_bind_ok h]
        simp)

/-- Turn a rejection with one of some codes into another failure. -/
def reword (x : Session α) (codes : List String) (e : Failure) : Session α :=
  x.rescue fun
    | .rejected r => fail (if r.hasCode codes then e else .rejected r)
    | other => fail other

def emit (e : Event) : Session Unit := ⟨fun w => ⟨.ok (), [e], w⟩⟩

/-- Write a line to the standard output. Whether it takes the line is up to the host of the run. -/
def print (line : String) : Session Unit := emit (.printed line)

/-- Write a line to the standard error stream. -/
def complain (line : String) : Session Unit := emit (.complained line)

def log (level : Level) (origin : Origin) (message : String) : Session Unit :=
  emit (.logged ⟨level, origin, message⟩)

def ofResult : Except Failure α → Session α
  | .ok a => pure a
  | .error e => fail e

def now : Session Float := ⟨fun w => ⟨.ok w.clock, [], w⟩⟩

/-- Pause. Whether the clock can do so is up to the host of the run. -/
def sleep (seconds : Float) : Session Unit :=
  ⟨fun w => ⟨.ok (), [.slept seconds], { w with clock := w.clock + seconds }⟩⟩

def connect (region : String) (profile : Option String) : Session Unit :=
  ⟨fun w => ⟨match w.connection with | none => .ok () | some e => .error e,
    [.connected region profile], w⟩⟩

/-- Ask a service. Its next answer is used up. -/
def ask (r : Request) : Session r.method.Reply :=
  ⟨fun w =>
    match w.answers r.method with
    | [] => ⟨.error (.exhausted r.method), [.requested r], w⟩
    | answer :: _ =>
      ⟨answer.result, [.requested r],
        { w with answers := w.answers.drop r.method, clock := w.clock + answer.delay }⟩⟩

def remaining (m : Method) : Session Nat := ⟨fun w => ⟨.ok (w.answers m).length, [], w⟩⟩

/-- Read pages from a cursor on until one has no successor, at most `more` after the first. -/
def pages (fetch : κ → Session ρ) (next : κ → ρ → Option κ) : Nat → κ → Session (List ρ)
  | 0, k => do return [← fetch k]
  | more + 1, k => do
    let page ← fetch k
    match next k page with
    | none => return [page]
    | some k' => return page :: (← pages fetch next more k')

/-- Read all pages from a cursor on. Every page takes an answer of the method. -/
def allPages (m : Method) (fetch : κ → Session ρ) (next : κ → ρ → Option κ) (k : κ) :
    Session (List ρ) := do
  pages fetch next (← remaining m) k

end Session

end ClusterLaunch
