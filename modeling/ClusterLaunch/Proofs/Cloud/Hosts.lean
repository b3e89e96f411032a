import ClusterLaunch.Cloud.Host
import ClusterLaunch.Proofs.Cloud.Faults
import ClusterLaunch.Proofs.Cloud.Inquiry

/-! # Runs in a host

A run of which nothing is refused is the same in the host. Any other ends before the first event
that is refused. Two sessions in a row do in a host what each of them does there: the second one
runs only if nothing of the first was refused.
-/

namespace ClusterLaunch

variable {α β : Type}

def Run.after (before : List Event) (r : Run α) : Run α :=
  { r with events := before ++ r.events }

namespace Host

variable {host : Host} {S : Set Method} {s t : List Event} {e : Event} {f : Failure}

def Admits (host : Host) (s : List Event) : Prop := ∀ e ∈ s, host.refusal? e = none

theorem admits_nil : host.Admits [] := fun _ he => absurd he List.not_mem_nil

theorem Admits.append (hs : host.Admits s) (ht : host.Admits t) : host.Admits (s ++ t) :=
  List.forall_mem_append.mpr ⟨hs, ht⟩

/-- Either no event is refused, or one is the first. -/
theorem admits_or_refuses (host : Host) (s : List Event) :
    host.Admits s ∨ ∃ before e after f,
      s = before ++ e :: after ∧ host.Admits before ∧ host.refusal? e = some f := by
  induction s with
  | nil => exact .inl admits_nil
  | cons e s ih =>
    cases he : host.refusal? e with
    | some f => exact .inr ⟨[], e, s, f, rfl, admits_nil, he⟩
    | none =>
      obtain hs | ⟨before, e', after, f, rfl, hbefore, he'⟩ := ih
      · exact .inl (List.forall_mem_cons.mpr ⟨he, hs⟩)
      · exact .inr ⟨e :: before, e', after, f, rfl, List.forall_mem_cons.mpr ⟨he, hbefore⟩, he'⟩

/-- What a host refuses of some events comes after a request of some methods. -/
def AdmitsUntil (host : Host) (S : Set Method) (s : List Event) : Prop :=
  ∀ before e after, s = before ++ e :: after → host.refusal? e ≠ none →
    ∃ m ∈ Event.methods before, m ∈ S

theorem Admits.admitsUntil (h : host.Admits s) (S : Set Method) : host.AdmitsUntil S s := by
  rintro before e after rfl he
  exact absurd (h e (List.mem_append_right before List.mem_cons_self)) he

theorem AdmitsUntil.admits (h : host.AdmitsUntil S s) (hS : ∀ m ∈ Event.methods s, m ∉ S) :
    host.Admits s := by
  intro e he
  obtain ⟨before, after, rfl⟩ := List.append_of_mem he
  by_contra hrefused
  obtain ⟨m, hm, hmS⟩ := h before e after rfl hrefused
  refine hS m ?_ hmS
  rw [Event.methods_append]
  exact List.mem_append_left _ hm

/-- The events that follow a request of the methods do not matter. -/
theorem AdmitsUntil.append (hs : host.AdmitsUntil S s)
    (ht : (∀ m ∈ Event.methods s, m ∉ S) → host.AdmitsUntil S t) :
    host.AdmitsUntil S (s ++ t) := by
  -- an event of the second list comes after the whole first one
  have hright : ∀ between e after, t = between ++ e :: after → host.refusal? e ≠ none →
      ∃ m ∈ Event.methods (s ++ between), m ∈ S := by
    intro between e after ht' he
    rw [Event.methods_append]
    by_cases hm : ∃ m ∈ Event.methods s, m ∈ S
    · obtain ⟨m, hm, hmS⟩ := hm
      exact ⟨m, List.mem_append_left _ hm, hmS⟩
    · obtain ⟨m, hm', hmS⟩ := ht (fun m hm' hmS => hm ⟨m, hm', hmS⟩) between e after ht' he
      exact ⟨m, List.mem_append_right _ hm', hmS⟩
  intro before e after heq he
  rcases List.append_eq_append_iff.mp heq with ⟨between, rfl, ht'⟩ | ⟨between, hs', hbetween⟩
  · exact hright between e after ht' he
  · cases between with
    | nil =>
      rw [List.append_nil] at hs'
      have h := hright [] e after hbetween.symm he
      rwa [List.append_nil, hs'] at h
    | cons e' rest =>
      obtain ⟨rfl, -⟩ := List.cons_eq_cons.mp hbetween
      exact hs before e rest hs' he

end Host

section Run

variable {host : Host} {r : Run α} {before after : List Event} {e : Event} {f : Failure}

theorem Run.hosted_eq_self (h : host.Admits r.events) : r.hosted host = r := by
  have hfind : r.events.findSome? host.refusal? = none := List.findSome?_eq_none_iff.mpr h
  have htake : r.events.takeWhile (fun e => (host.refusal? e).isNone) = r.events :=
    List.takeWhile_eq_self_iff.mpr fun e he => Option.isNone_iff_eq_none.mpr (h e he)
  rw [hosted, hfind, htake]
  rfl

theorem Run.hosted_recorder (r : Run α) : r.hosted .recorder = r := by
  apply hosted_eq_self
  intro e _
  cases e <;> rfl

/-- A run ends before the first event that is refused, and its failure is the refusal. -/
theorem Run.hosted_of_refusal (h : r.events = before ++ e :: after) (hbefore : host.Admits before)
    (he : host.refusal? e = some f) : r.hosted host = ⟨.error f, before, r.world⟩ := by
  have hfind : r.events.findSome? host.refusal? = some f := by
    rw [h, List.findSome?_append, List.findSome?_eq_none_iff.mpr hbefore, List.findSome?_cons, he]
    rfl
  have htake : r.events.takeWhile (fun e => (host.refusal? e).isNone) = before := by
    rw [h, List.takeWhile_append_of_pos fun e he => Option.isNone_iff_eq_none.mpr (hbefore e he),
      List.takeWhile_cons_of_neg (by rw [he]; exact Bool.false_ne_true), List.append_nil]
  rw [hosted, hfind, htake]
  rfl

theorem Run.hosted_after (h : host.Admits before) (r : Run α) :
    (r.after before).hosted host = (r.hosted host).after before := by
  obtain hr | ⟨s, e, t, f, hr, hs, he⟩ := host.admits_or_refuses r.events
  · rw [hosted_eq_self hr, hosted_eq_self (r := r.after before) (h.append hr)]
  · have hafter : (r.after before).events = (before ++ s) ++ e :: t := by
      rw [after, hr, List.append_assoc]
    rw [hosted_of_refusal hr hs he,
      hosted_of_refusal hafter (h.append hs) he]
    rfl

end Run

namespace Session

variable {host : Host} {S : Set Method} {x : Session α} {f : α → Session β} {w : World}

/-- A session that comes to a result in a host is followed by what the next one does there. -/
theorem hosted_bind_ok {a : α} (h : ((x.run w).hosted host).outcome = .ok a) :
    ((x >>= f).run w).hosted host =
      (((f a).run (x.run w).world).hosted host).after (x.run w).events := by
  obtain hx | ⟨before, e, after, f', hx, hbefore, he⟩ := host.admits_or_refuses (x.run w).events
  · rw [Run.hosted_eq_self hx] at h
    rw [← Run.hosted_after hx, run_bind_ok h]
    rfl
  · rw [Run.hosted_of_refusal hx hbefore he] at h
    cases h

/-- A session that fails in a host is followed by nothing. -/
theorem hosted_bind_error {e : Failure} (h : ((x.run w).hosted host).outcome = .error e) :
    (((x >>= f).run w).hosted host).outcome = .error e ∧
      (((x >>= f).run w).hosted host).events = ((x.run w).hosted host).events := by
  obtain hx | ⟨before, e', after, f', hx, hbefore, he⟩ := host.admits_or_refuses (x.run w).events
  · rw [Run.hosted_eq_self hx] at h ⊢
    have hbind : host.Admits ((x >>= f).run w).events := by rwa [run_bind_error h]
    rw [Run.hosted_eq_self hbind, run_bind_error h]
    exact ⟨rfl, rfl⟩
  · have hbind : ∃ rest, ((x >>= f).run w).events = before ++ e' :: rest := by
      cases ho : (x.run w).outcome with
      | error _ => exact ⟨after, by rw [run_bind_error ho, hx]⟩
      | ok a => exact ⟨_, by rw [run_bind_ok ho, hx, List.append_assoc, List.cons_append]⟩
    obtain ⟨rest, hbind⟩ := hbind
    rw [Run.hosted_of_refusal hx hbefore he] at h ⊢
    rw [Run.hosted_of_refusal hbind hbefore he]
    cases h
    exact ⟨rfl, rfl⟩

/-- What a host refuses of two sessions in a row comes after a request of some methods, if that
holds of the first one, and of the second one where the first did not make such a request. -/
theorem admitsUntil_bind (hx : host.AdmitsUntil S (x.run w).events)
    (hf : ∀ a, (x.run w).outcome = .ok a → (∀ m ∈ (x.run w).methods, m ∉ S) →
      host.AdmitsUntil S ((f a).run (x.run w).world).events) :
    host.AdmitsUntil S ((x >>= f).run w).events := by
  cases h : (x.run w).outcome with
  | error e => rwa [run_bind_error h]
  | ok a =>
    rw [run_bind_ok h]
    exact hx.append (hf a h)

/-- A host refuses nothing that an inquiry does. -/
theorem Inquiry.admits {σ : Method → Failure → Failure} (hx : Inquiry S σ x) :
    host.Admits (x.run w).events := by
  intro e he
  rcases hx.events he with ⟨r, rfl, -⟩ | ⟨record, rfl⟩ <;> rfl

theorem admitsUntil_print_bind {line : String} {g : Unit → Session β} (h : host.takes line = true)
    (hg : host.AdmitsUntil S ((g ()).run w).events) :
    host.AdmitsUntil S ((print line >>= g).run w).events := by
  refine admitsUntil_bind (Host.Admits.admitsUntil ?_ S) fun _ _ _ => hg
  intro e he
  obtain rfl := List.mem_singleton.mp he
  exact if_pos h

end Session

end ClusterLaunch
