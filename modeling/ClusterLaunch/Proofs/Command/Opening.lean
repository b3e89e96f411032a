import ClusterLaunch.Proofs.Cloud.Agreement
import ClusterLaunch.Proofs.Command.Task

/-! # The first lines of a command

Before it asks anything a command writes lines in which texts of the configuration stand. All other
lines that it writes before it submits a stack are of ASCII characters. So a host that takes these
refuses nothing up to there if it takes the first lines, and where it does not, the command ends.
-/

namespace ClusterLaunch

open Session

def Host.TakesAscii (host : Host) : Prop :=
  ∀ line : String, line.toList.all (·.toNat < 128) = true → host.takes line = true

/-- The first of some lines that a host does not take. -/
def Host.untaken? (host : Host) (lines : List String) : Option String :=
  lines.find? fun line => !host.takes line

/-- The lines that a command writes about a configuration before it asks anything. -/
def Command.openings (c : Command) (config : Config) : List String :=
  match c with
  | .validate => [config.heading "Validating"]
  | .provision => [config.heading "Provisioning", config.networkLine]

/-- A run ends at a line that the host does not take: nothing is asked, and the failure is not
reported. -/
structure Run.StopsAt (r : Run ExitStatus) (line : String) : Prop where
  outcome : r.outcome = .error (.unencodable line)
  requests : r.requests = []
  complaints : r.complaints = []

namespace Host

variable {host : Host}

theorem takes_of_untaken {lines : List String} (h : host.untaken? lines = none) {line : String}
    (hline : line ∈ lines) : host.takes line = true := by
  simpa using List.find?_eq_none.mp h line hline

/-- UTF-8 has codes for all ASCII characters. -/
theorem takesAscii_system : Host.system.TakesAscii := by
  intro line hline
  have hcodes : ∀ s : List Char, s.all (·.toNat < 128) = true →
      ∀ n ∈ Text.codePoints s, n < 128 := by
    intro s hs
    induction s with
    | nil => exact fun n hn => absurd hn List.not_mem_nil
    | cons c s ih =>
      obtain ⟨hc, hs⟩ := Bool.and_eq_true_iff.mp (List.all_cons.symm.trans hs)
      have hmark : c ≠ Text.mark := by
        rintro rfl
        exact absurd hc (by decide)
      rw [Text.codePoints_cons_of_ne hmark]
      exact List.forall_mem_cons.mpr ⟨of_decide_eq_true hc, ih hs⟩
  refine List.all_eq_true.mpr fun n hn => ?_
  have hn := hcodes line.toList hline n hn
  simp only [Text.isSurrogate, Bool.not_eq_true', Bool.and_eq_false_iff, decide_eq_false_iff_not]
  omega

theorem TakesAscii.takes_number (h : host.TakesAscii) {line : String}
    (hline : line.toList.all (·.toNat < 128) = true) (n : ℕ) :
    host.takes (line ++ toString n) = true := by
  have hnumber : (toString n).toList.all (·.toNat < 128) = true := by
    refine List.all_eq_true.mpr fun c hc => decide_eq_true ?_
    rw [Nat.toString_eq_repr, Nat.toList_repr] at hc
    have hdigit := Nat.isDigit_of_mem_toDigits (by decide) (by decide) hc
    obtain ⟨-, hnine⟩ := Char.isDigit_iff_toNat.mp hdigit
    exact Nat.lt_of_le_of_lt hnine (by decide)
  apply h
  rw [String.toList_append, List.all_append, hline, hnumber]
  rfl

end Host

section Task

variable {host : Host} {S : Set Method} {files : Files} {inputs : Inputs} {config : Config}
  {w : World}

theorem connection_eq_none
    (h : w.connection.elim (.ok ()) .error = (.ok () : Except Failure Unit)) :
    w.connection = none := by
  cases hw : w.connection with
  | none => rfl
  | some e =>
    rw [hw] at h
    cases h

theorem admits_loadConfig (path : Path) : host.Admits ((loadConfig files path).run w).events := by
  rw [run_loadConfig]
  exact List.forall_mem_singleton.mpr rfl

theorem admits_connect (region : String) (profile : Option String) :
    host.Admits ((connect region profile).run w).events := List.forall_mem_singleton.mpr rfl

def checkRest (files : Files) (template : Option Path) : Session ExitStatus := do
  checkTemplate files template
  print "Cluster configuration is valid."
  return .success

theorem admitsUntil_validateTask
    (hlines : ∀ config, Config.load files inputs.configPath = .ok config → w.connection = none →
      host.untaken? (Command.validate.openings config) = none)
    (hrest : ∀ v, host.AdmitsUntil S ((checkRest files inputs.templatePath).run v).events) :
    host.AdmitsUntil S ((validateTask files inputs).run w).events := by
  refine admitsUntil_bind ((admits_loadConfig _).admitsUntil S) fun config hload _ => ?_
  rw [run_loadConfig] at hload ⊢
  refine admitsUntil_bind ((admits_connect _ _).admitsUntil S) fun _ hconnect _ => ?_
  rw [run_connect] at hconnect ⊢
  have hlines := hlines config (mapError_eq_ok_iff.mp hload) (connection_eq_none hconnect)
  refine admitsUntil_print_bind (Host.takes_of_untaken hlines List.mem_cons_self) ?_
  exact admitsUntil_bind ((inquiry_preflight config).admits.admitsUntil S) fun _ _ _ => hrest _

theorem admits_checkRest_none (hascii : host.TakesAscii) :
    host.AdmitsUntil S ((checkRest files none).run w).events := by
  rw [checkRest, checkTemplate, pure_bind]
  exact admitsUntil_print_bind (hascii _ (by decide +kernel)) (Host.admits_nil.admitsUntil S)

/-- A template that cannot be read is not told of on the standard output. -/
theorem events_checkRest_of_error {path : Path} {f : ConfigError}
    (h : readText files .template path = .error f) :
    ((checkRest files (some path)).run w).events = [] := by
  have hread : ((readTemplate files path).run w).outcome = .error (.config f) := by
    rw [readTemplate, run_ofResult, h]
    rfl
  rw [checkRest, checkTemplate, bind_assoc, run_bind_error hread, readTemplate, run_ofResult]

theorem admitsUntil_announce_bind {α : Type} {plan : ProvisionPlan} {g : Unit → Session α}
    (hascii : host.TakesAscii)
    (hlines : host.untaken? (Command.provision.openings config) = none)
    (hg : host.AdmitsUntil S ((g ()).run w).events) :
    host.AdmitsUntil S ((announce config plan >>= g).run w).events := by
  simp only [announce, bind_assoc]
  refine admitsUntil_print_bind (Host.takes_of_untaken hlines List.mem_cons_self) ?_
  refine admitsUntil_print_bind (Host.takes_of_untaken hlines ?_) ?_
  · exact List.mem_cons_of_mem _ List.mem_cons_self
  refine admitsUntil_print_bind (hascii.takes_number (by decide +kernel) _) ?_
  refine admitsUntil_print_bind (hascii _ ?_) hg
  split <;> decide +kernel

/-- What a launch writes after the submission, the name of the stack for one, does not matter. -/
theorem admitsUntil_launch {plan : ProvisionPlan} (hascii : host.TakesAscii) :
    host.AdmitsUntil {.createStack} ((launch config plan).run w).events := by
  refine admitsUntil_print_bind (hascii _ (by decide +kernel)) ?_
  have hsubmit : host.Admits ((createStack config plan.template).run w).events :=
    (inquiry_createStack config plan.template).admits
  refine admitsUntil_bind (hsubmit.admitsUntil _) fun handle _ hnot => ?_
  rw [methods_createStack] at hnot
  exact absurd rfl (hnot _ List.mem_cons_self)

theorem admitsUntil_provision {plan : ProvisionPlan} (hascii : host.TakesAscii)
    (hlines : host.untaken? (Command.provision.openings config) = none) :
    host.AdmitsUntil {.createStack} ((provision config plan).run w).events := by
  rw [provision_eq]
  refine admitsUntil_announce_bind hascii hlines ?_
  refine admitsUntil_print_bind (hascii _ (by decide +kernel)) ?_
  refine admitsUntil_bind ((inquiry_preflight config).admits.admitsUntil _) fun _ _ _ => ?_
  refine admitsUntil_print_bind (hascii _ (by decide +kernel)) ?_
  split
  · exact admitsUntil_print_bind (hascii _ (by decide +kernel)) (Host.admits_nil.admitsUntil _)
  · exact admitsUntil_launch hascii

theorem admitsUntil_finish (hascii : host.TakesAscii) (result : ProvisionResult) :
    host.AdmitsUntil S ((finish result).run w).events := by
  unfold finish
  split
  · exact admitsUntil_print_bind (hascii _ (by decide +kernel)) (Host.admits_nil.admitsUntil S)
  · exact Host.admits_nil.admitsUntil S

theorem admitsUntil_provisionTask (hascii : host.TakesAscii)
    (hlines : ∀ config, Config.load files inputs.configPath = .ok config → w.connection = none →
      host.untaken? (Command.provision.openings config) = none) :
    host.AdmitsUntil {.createStack} ((provisionTask files inputs).run w).events := by
  refine admitsUntil_bind ((admits_loadConfig _).admitsUntil _) fun config hload _ => ?_
  rw [run_loadConfig] at hload ⊢
  refine admitsUntil_bind ?_ fun template _ _ => ?_ <;> rw [run_requiredTemplate]
  · exact Host.admits_nil.admitsUntil _
  refine admitsUntil_bind ((admits_connect _ _).admitsUntil _) fun _ hconnect _ => ?_
  rw [run_connect] at hconnect ⊢
  have hlines := hlines config (mapError_eq_ok_iff.mp hload) (connection_eq_none hconnect)
  exact admitsUntil_bind (admitsUntil_provision hascii hlines) fun result _ _ =>
    admitsUntil_finish hascii result

end Task

section Command

variable {host : Host} {c : Command} {files : Files} {env : Environment} {a : Arguments}
  {inputs : Inputs} {config : Config} {w : World}

/-- Until it submits a stack a command is refused none but its first lines. -/
theorem Command.admitsUntil_run (hascii : host.TakesAscii)
    (hpath : ∀ inputs, c.inputs env a = .ok inputs → c = .validate → inputs.templatePath = none)
    (hlines : ∀ inputs config, c.inputs env a = .ok inputs →
      Config.load files inputs.configPath = .ok config → w.connection = none →
      host.untaken? (c.openings config) = none) :
    host.AdmitsUntil {.createStack} ((c.run files env a).run w).events := by
  cases hinputs : c.inputs env a with
  | error e =>
    rw [run_of_inputs_error hinputs]
    exact Host.admits_nil.admitsUntil _
  | ok inputs =>
    have htask : host.AdmitsUntil {.createStack} ((c.task files inputs).run w).events := by
      cases c with
      | validate =>
        refine admitsUntil_validateTask (fun config => hlines inputs config hinputs) fun v => ?_
        rw [hpath inputs hinputs rfl]
        exact admits_checkRest_none hascii
      | provision =>
        exact admitsUntil_provisionTask hascii fun config => hlines inputs config hinputs
    rw [run_eq hinputs]
    rcases events_guarded (c.task files inputs) w with h | ⟨line, h⟩ <;> rw [h]
    · exact htask
    · exact htask.append fun _ => Host.Admits.admitsUntil (List.forall_mem_singleton.mpr rfl) _

def Command.opening (c : Command) (inputs : Inputs) (config : Config) : List Event :=
  loading inputs.configPath :: .connected (config.text .region) inputs.profile ::
    (c.openings config).map .printed

/-- The files of a command can be read, and clients can be made. -/
structure Command.Opens (c : Command) (files : Files) (inputs : Inputs) (w : World)
    (config : Config) : Prop where
  config : Config.load files inputs.configPath = .ok config
  template : c = .provision → ∃ path text, inputs.templatePath = some path ∧
    readText files .template path = .ok text
  connection : w.connection = none

theorem Command.Opens.begins (h : c.Opens files inputs w config) :
    c.opening inputs config <+: ((c.task files inputs).run w).events := by
  have hload : ((loadConfig files inputs.configPath).run w).outcome = .ok config := by
    rw [run_loadConfig, h.config, mapError_ok]
  have hconnect : ((connect (config.text .region) inputs.profile).run w).outcome = .ok () := by
    rw [run_connect, h.connection]
    rfl
  cases c with
  | validate =>
    rw [task, validateTask, run_bind_ok hload, run_loadConfig, run_bind_ok hconnect]
    exact ⟨_, rfl⟩
  | provision =>
    obtain ⟨path, text, hpath, htext⟩ := h.template rfl
    have htemplate : ((requiredTemplate files inputs).run w).outcome = .ok text := by
      rw [run_requiredTemplate, hpath]
      exact congrArg (Except.mapError Failure.config) htext
    rw [task, provisionTask, run_bind_ok hload, run_loadConfig, run_bind_ok htemplate,
      run_requiredTemplate, run_bind_ok hconnect]
    simp only [provision_eq, announce, bind_assoc]
    exact ⟨_, rfl⟩

/-- A command ends at the first of its first lines that the host does not take. -/
theorem Command.Opens.stopsAt (h : c.Opens files inputs w config)
    (hinputs : c.inputs env a = .ok inputs) {line : String}
    (hline : host.untaken? (c.openings config) = some line) :
    (((c.run files env a).run w).hosted host).StopsAt line := by
  obtain ⟨hline, before, after, hlines, hbefore⟩ := List.find?_eq_some_iff_append.mp hline
  obtain ⟨rest, hrest⟩ := h.begins.trans (events_prefix_guarded _ w)
  have hsplit : ((guarded (c.task files inputs)).run w).events =
      (loading inputs.configPath :: .connected (config.text .region) inputs.profile ::
        before.map .printed) ++ .printed line :: (after.map .printed ++ rest) := by
    rw [← hrest, opening, hlines, List.map_append, List.map_cons]
    simp only [List.cons_append, List.append_assoc]
  have hrefusal : host.refusal? (.printed line) = some (.unencodable line) :=
    if_neg (by simpa using hline)
  have hadmits : host.Admits (before.map .printed) := by
    intro e he
    obtain ⟨l, hl, rfl⟩ := List.mem_map.mp he
    exact if_pos (by simpa using hbefore l hl)
  rw [run_eq hinputs, Run.hosted_of_refusal hsplit
    (List.forall_mem_cons.mpr ⟨rfl, List.forall_mem_cons.mpr ⟨rfl, hadmits⟩⟩) hrefusal]
  refine ⟨rfl, ?_, ?_⟩
  all_goals
    refine List.filterMap_eq_nil_iff.mpr fun e he => ?_
    obtain rfl | rfl | ⟨l, -, rfl⟩ := by simpa using he
    all_goals rfl

end Command

end ClusterLaunch
