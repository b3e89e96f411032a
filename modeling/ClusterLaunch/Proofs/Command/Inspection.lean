import ClusterLaunch.Command.Basic
import ClusterLaunch.Proofs.Cloud.Hosts
import ClusterLaunch.Proofs.Cloud.Output
import ClusterLaunch.Proofs.Inputs
import ClusterLaunch.Proofs.Preflight.Inquiry
import ClusterLaunch.Proofs.Provision.Calls

/-! # What the commands have in common

Both commands begin alike: they load the configuration, make clients and run the preflight. Apart
from the lines on the standard output they differ only in what they do after it.
-/

namespace ClusterLaunch

open Session

/-- What both commands begin with: the configuration, the clients and the preflight. -/
def inspect (files : Files) (inputs : Inputs) : Session Config := do
  let config ← loadConfig files inputs.configPath
  connect (config.text .region) inputs.profile
  preflight config
  return config

/-- A command that goes on after the preflight. -/
def inspected (files : Files) (env : Environment) (raw : RawInputs)
    (conclude : Inputs → Config → Session ExitStatus) : Session ExitStatus := do
  let inputs ← resolveInputs env false raw
  guarded do
    let config ← inspect files inputs
    conclude inputs config

def survey (files : Files) (env : Environment) (raw : RawInputs) : Session ExitStatus :=
  inspected files env raw fun _ _ => pure .success

/-- What a command does when it may create a stack. -/
def enact (config : Config) (plan : ProvisionPlan) : Session ExitStatus := do
  let result ← launch config plan
  if result.success then
    print "\nCluster provisioning complete."
    return .success
  else return .failure

theorem hushed_guarded (command : Session ExitStatus) :
    (guarded command).hushed = guarded command.hushed := by
  unfold guarded
  rw [hushed_rescue]
  congr 1
  funext e
  split <;> rfl

theorem hushed_announce (config : Config) (plan : ProvisionPlan) :
    (announce config plan).hushed = pure () := by
  simp only [announce, hushed_bind, hushed_print, pure_bind]

theorem hushed_provision (config : Config) (plan : ProvisionPlan) :
    (provision config plan).hushed = (do
      preflight config
      if plan.dryRun then return ⟨true, none, none, []⟩ else (launch config plan).hushed) := by
  have hproceed : (proceed config plan).hushed =
      if plan.dryRun then pure ⟨true, none, none, []⟩ else (launch config plan).hushed := by
    rw [proceed, hushed_bind, hushed_print, pure_bind]
    split
    · rw [hushed_bind, hushed_print, pure_bind, hushed_pure]
    · rfl
  rw [provision_eq]
  simp only [hushed_bind, hushed_announce, hushed_print, pure_bind,
    (inquiry_preflight config).hushed, hproceed]

variable {files : Files} {env : Environment} (config : Option Path) (profile : Option String)

theorem hushed_loadConfig (files : Files) (path : Path) :
    (loadConfig files path).hushed = loadConfig files path := by
  rw [loadConfig, hushed_bind, hushed_log, hushed_ofResult]

theorem hushed_validateCommand (henv : filled (env "STACK_TEMPLATE") = none) :
    (validateCommand files env { config, profile }).hushed =
      survey files env { configPath := config, profile } := by
  unfold validateCommand survey inspected
  rw [hushed_bind, resolveInputs, hushed_ofResult]
  cases h : Inputs.resolve env false { configPath := config, profile } with
  | error e => rfl
  | ok inputs =>
    have htemplate := Inputs.templatePath_eq_none config profile henv h
    rw [mapError_ok, ofResult_ok, pure_bind, pure_bind, hushed_guarded, htemplate]
    simp only [inspect, checkTemplate, hushed_bind, hushed_loadConfig, hushed_connect, hushed_print,
      hushed_pure, (inquiry_preflight _).hushed, bind_assoc, pure_bind]

theorem hushed_provisionCommand (henv : filled (env "STACK_TEMPLATE") = none) {template : Path}
    {text : String} (htemplate : readText files .template template = .ok text) (dryRun : Bool) :
    (provisionCommand files env
        { config, template := some template, profile, dryRun := some dryRun }).hushed =
      inspected files env { configPath := config, profile } fun inputs config =>
        if dryRun then pure .success
        else (enact config ⟨text, false, inputs.pollInterval, inputs.waitLimit⟩).hushed := by
  unfold provisionCommand inspected
  have hraw : Arguments.raw { config, template := some template, profile, dryRun := some dryRun } =
      ⟨config, some template, profile, none, none, some (if dryRun then "True" else "False")⟩ := rfl
  rw [hushed_bind, resolveInputs, resolveInputs, hushed_ofResult, hraw,
    Inputs.resolve_template config profile henv]
  cases h : Inputs.resolve env false { configPath := config, profile } with
  | error e => rfl
  | ok inputs =>
    rw [map_ok, mapError_ok, mapError_ok, ofResult_ok, ofResult_ok, pure_bind, pure_bind,
      hushed_guarded]
    simp only [inspect, readTemplate, htemplate, mapError_ok, ofResult_ok, hushed_bind,
      hushed_loadConfig, hushed_connect, hushed_provision, bind_assoc, pure_bind]
    cases dryRun with
    | true => simp only [if_true, pure_bind, hushed_bind, hushed_print, hushed_pure]
    | false => simp only [enact, hushed_bind, Bool.false_eq_true, if_false]

theorem run_guarded_congr {x y : Session ExitStatus} {w : World} (h : x.run w = y.run w) :
    (guarded x).run w = (guarded y).run w := by
  unfold guarded rescue
  simp only [h]

theorem run_guarded_bind {α : Type} {x : Session α} {f : α → Session ExitStatus} {w : World} {a : α}
    (h : (x.run w).outcome = .ok a) :
    (guarded (x >>= f)).run w =
      ((guarded (f a)).run (x.run w).world).after (x.run w).events := by
  cases hf : ((f a).run (x.run w).world).outcome with
  | ok status =>
    have hxf : ((x >>= f).run w).outcome = .ok status := by rw [run_bind_ok h, hf]
    rw [guarded, guarded, run_rescue_ok hxf, run_rescue_ok hf, run_bind_ok h]
    rfl
  | error e =>
    have hxf : ((x >>= f).run w).outcome = .error e := by rw [run_bind_ok h, hf]
    rw [guarded, guarded, run_rescue_error hxf, run_rescue_error hf, run_bind_ok h, Run.after,
      List.append_assoc]

/-- A guard adds only the line that reports a failure. -/
theorem events_guarded (command : Session ExitStatus) (w : World) :
    ((guarded command).run w).events = (command.run w).events ∨
      ∃ line, ((guarded command).run w).events = (command.run w).events ++ [.complained line] := by
  cases h : (command.run w).outcome with
  | ok status => exact .inl (by rw [guarded, run_rescue_ok h])
  | error e =>
    rw [guarded, run_rescue_error h]
    cases e.isReported with
    | true => exact .inr ⟨e.report, rfl⟩
    | false => exact .inl (List.append_nil _)

theorem events_prefix_guarded (command : Session ExitStatus) (w : World) :
    (command.run w).events <+: ((guarded command).run w).events := by
  rcases events_guarded command w with h | ⟨line, h⟩
  · rw [h]
  · exact ⟨_, h.symm⟩

theorem Failure.exitStatus_ne_success (e : Failure) : e.exitStatus ≠ .success := by
  unfold exitStatus
  split <;> nofun

/-- A failure never ends a command with success. -/
theorem outcome_guarded_error {command : Session ExitStatus} {w : World} {e : Failure}
    (h : (command.run w).outcome = .error e) :
    ((guarded command).run w).outcome ≠ .ok .success := by
  rw [guarded, run_rescue_error h]
  cases hreported : e.isReported with
  | true => exact fun hsuccess => e.exitStatus_ne_success (Except.ok.inj hsuccess)
  | false => exact nofun

/-- A command either ends before its conclusion, without success, or comes to it. -/
theorem inspected_cases (files : Files) (env : Environment) (raw : RawInputs) (w : World) :
    (∃ r : Run ExitStatus, r.outcome ≠ .ok .success ∧
      ∀ conclude, (inspected files env raw conclude).run w = r) ∨
    ∃ inputs config before v, ∀ conclude, (inspected files env raw conclude).run w =
      ((guarded (conclude inputs config)).run v).after before := by
  cases hinputs : Inputs.resolve env false raw with
  | error e =>
    refine .inl ⟨⟨.error (.input e), [], w⟩, nofun, fun conclude => ?_⟩
    rw [inspected, resolveInputs, hinputs]
    rfl
  | ok inputs =>
    have hrun : ∀ conclude : Inputs → Config → Session ExitStatus,
        inspected files env raw conclude =
          guarded (inspect files inputs >>= conclude inputs) := by
      intro conclude
      rw [inspected, resolveInputs, hinputs, mapError_ok, ofResult_ok, pure_bind]
    cases h : ((inspect files inputs).run w).outcome with
    | error e =>
      -- the conclusion is not reached, so any other could stand in its place
      refine .inl ⟨(guarded (inspect files inputs >>= fun _ => fail e)).run w, ?_, ?_⟩
      · exact outcome_guarded_error (congrArg Run.outcome (run_bind_error h))
      · intro conclude
        rw [hrun]
        apply run_guarded_congr
        rw [run_bind_error h, run_bind_error h]
    | ok config =>
      refine .inr ⟨inputs, config, ((inspect files inputs).run w).events,
        ((inspect files inputs).run w).world, fun conclude => ?_⟩
      rw [hrun, run_guarded_bind h]

end ClusterLaunch
