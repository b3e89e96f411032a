import ClusterLaunch.Proofs.Command.Inspection
import ClusterLaunch.Proofs.Provision.Result

/-! # The task of a command

A command resolves its inputs and does its task, and a failure of the task is reported if it is of
a kind that is. The task of the command that creates a stack comes apart into what is done before
the stack is followed, following it, and the end.
-/

namespace ClusterLaunch

open Session

def Command.inputs (c : Command) (env : Environment) (a : Arguments) : Except InputError Inputs :=
  match c with
  | .validate => Inputs.resolve env false
      { configPath := a.config, templatePath := a.template, profile := a.profile }
  | .provision => Inputs.resolve env true a.raw

def validateTask (files : Files) (inputs : Inputs) : Session ExitStatus := do
  let config ← loadConfig files inputs.configPath
  connect (config.text .region) inputs.profile
  print (config.heading "Validating")
  preflight config
  checkTemplate files inputs.templatePath
  print "Cluster configuration is valid."
  return .success

def requiredTemplate (files : Files) (inputs : Inputs) : Session String :=
  match inputs.templatePath with
  | some path => readTemplate files path
  | none => fail (.input (.missing "STACK_TEMPLATE"))

def Inputs.plan (inputs : Inputs) (template : String) : ProvisionPlan :=
  ⟨template, inputs.dryRun, inputs.pollInterval, inputs.waitLimit⟩

/-- How the command that creates a stack ends with a result. -/
def finish (result : ProvisionResult) : Session ExitStatus := do
  if result.success then
    print "\nCluster provisioning complete."
    return .success
  else return .failure

def provisionTask (files : Files) (inputs : Inputs) : Session ExitStatus := do
  let config ← loadConfig files inputs.configPath
  let template ← requiredTemplate files inputs
  connect (config.text .region) inputs.profile
  finish (← provision config (inputs.plan template))

def Command.task (c : Command) (files : Files) (inputs : Inputs) : Session ExitStatus :=
  match c with
  | .validate => validateTask files inputs
  | .provision => provisionTask files inputs

/-- With its inputs resolved, a command is its task and the report of its failure. -/
theorem Command.run_eq {c : Command} {env : Environment} {a : Arguments} {inputs : Inputs}
    (h : c.inputs env a = .ok inputs) (files : Files) :
    c.run files env a = guarded (c.task files inputs) := by
  cases c with
  | validate =>
    have hresolve : resolveInputs env false
        { configPath := a.config, templatePath := a.template, profile := a.profile } =
        pure inputs := by
      rw [resolveInputs, show Inputs.resolve env false _ = _ from h, mapError_ok, ofResult_ok]
    rw [Command.run, validateCommand, hresolve, pure_bind]
    rfl
  | provision =>
    have hresolve : resolveInputs env true a.raw = pure inputs := by
      rw [resolveInputs, show Inputs.resolve env true _ = _ from h, mapError_ok, ofResult_ok]
    rw [Command.run, provisionCommand, hresolve, pure_bind, Command.task, provisionTask]
    unfold requiredTemplate
    cases inputs.templatePath <;> rfl

theorem Command.run_of_inputs_error {c : Command} {env : Environment} {a : Arguments}
    {e : InputError} (h : c.inputs env a = .error e) (files : Files) :
    c.run files env a = fail (.input e) := by
  cases c with
  | validate =>
    rw [Command.run, validateCommand, resolveInputs, show Inputs.resolve env false _ = _ from h]
    rfl
  | provision =>
    rw [Command.run, provisionCommand, resolveInputs, show Inputs.resolve env true a.raw = _ from h]
    rfl

def loading (path : Path) : Event :=
  .logged ⟨.debug, .configuration, "Loading cluster configuration from " ++ path.text⟩

theorem run_loadConfig (files : Files) (path : Path) (w : World) :
    (loadConfig files path).run w =
      ⟨(Config.load files path).mapError .config, [loading path], w⟩ := by
  rw [loadConfig, run_bind, run_log, run_ofResult]
  rfl

theorem run_requiredTemplate (files : Files) (inputs : Inputs) (w : World) :
    (requiredTemplate files inputs).run w =
      ⟨inputs.templatePath.elim (.error (.input (.missing "STACK_TEMPLATE"))) fun path =>
        (readText files .template path).mapError .config, [], w⟩ := by
  unfold requiredTemplate
  cases inputs.templatePath with
  | none => rfl
  | some path => exact run_ofResult _ w

section Guarded

variable {task : Session ExitStatus} {w : World}

theorem run_guarded_ok {s : ExitStatus} (h : (task.run w).outcome = .ok s) :
    (guarded task).run w = task.run w := run_rescue_ok h

/-- A failure of a kind that is reported ends a command with its status. -/
theorem run_guarded_reported {e : Failure} (h : (task.run w).outcome = .error e)
    (he : e.isReported = true) :
    (guarded task).run w = ⟨.ok e.exitStatus, (task.run w).events ++ [.complained e.report],
      (task.run w).world⟩ := by
  rw [guarded, run_rescue_error h, if_pos he]
  rfl

theorem run_guarded_unreported {e : Failure} (h : (task.run w).outcome = .error e)
    (he : e.isReported = false) :
    (guarded task).run w = ⟨.error e, (task.run w).events, (task.run w).world⟩ := by
  rw [guarded, run_rescue_error h, he]
  exact congrArg (Run.mk _ · _) (List.append_nil _)

end Guarded

/-- Load the configuration and the template, make clients and run the preflight. -/
def prepare (files : Files) (inputs : Inputs) : Session (Config × String) := do
  let config ← loadConfig files inputs.configPath
  let template ← requiredTemplate files inputs
  connect (config.text .region) inputs.profile
  announce config (inputs.plan template)
  print "\n--- Running preflight checks ---"
  preflight config
  print "Preflight checks passed."
  return (config, template)

def submit (config : Config) (template : String) : Session String := do
  print "\n--- Creating stack ---"
  let handle ← createStack config template
  print ("Stack submitted: " ++ handle)
  print "\n--- Waiting for stack ---"
  return handle

/-- The task up to the point where the stack is followed, and from there on. -/
theorem provisionTask_eq (files : Files) (inputs : Inputs) :
    provisionTask files inputs = (do
      let (config, template) ← prepare files inputs
      if inputs.dryRun then
        print "\nDry run mode - skipping stack creation"
        finish ⟨true, none, none, []⟩
      else
        let handle ← submit config template
        finish (← follow (inputs.plan template) handle)) := by
  unfold provisionTask prepare submit
  simp only [bind_assoc, pure_bind, provision_eq, proceed, launch_eq]
  congr 1
  funext config
  congr 1
  funext template
  cases h : inputs.dryRun <;> simp [h, Inputs.plan]

end ClusterLaunch
