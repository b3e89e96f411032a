import ClusterLaunch.Proofs.Command.ExitStatus

/-! # The stack that a run submits

A run that submits a stack has resolved its inputs, which ask for no dry run, and has read its
configuration and its template. The stack is the one that these describe.
-/

namespace ClusterLaunch

open Session

/-- The configuration and the template that a run of the command that creates a stack reads with its
inputs. -/
structure Inputs.Describe (files : Files) (inputs : Inputs) (config : Config) (template : String) :
    Prop where
  config : Config.load files inputs.configPath = .ok config
  template : ∃ path, inputs.templatePath = some path ∧
    readText files .template path = .ok template

section Requests

variable {config : Config} {plan : ProvisionPlan} {w : World} {s : Submission}

theorem eq_of_mem_launch (h : .createStack s ∈ ((launch config plan).run w).requests) :
    s = .ofConfig config plan.template := by
  obtain ⟨rest, hrest⟩ : ∃ rest, ((launch config plan).run w).requests =
      .createStack (.ofConfig config plan.template) :: rest := by
    rw [launch_eq, (silent_print _).requests_bind]
    cases hid : ((createStack config plan.template).run w).outcome with
    | error e => exact ⟨[], (requests_bind_error hid).trans (requests_createStack _ _ _)⟩
    | ok id => exact ⟨_, (requests_bind_ok hid).trans (by rw [requests_createStack]; rfl)⟩
  obtain ⟨after, hafter, hnot⟩ := methods_launch config plan w
  rw [Run.methods, hrest, List.map_cons] at hafter
  rw [hrest] at h
  rcases List.mem_cons.mp h with heq | hin
  · exact Request.createStack.inj heq
  · rw [← (List.cons.inj hafter).2] at hnot
    exact absurd (List.mem_map_of_mem (f := Request.method) hin) hnot

theorem of_mem_provision (h : .createStack s ∈ ((provision config plan).run w).requests) :
    plan.dryRun = false ∧ s = .ofConfig config plan.template := by
  rw [provision_eq, (silent_announce config plan).requests_bind, (silent_print _).requests_bind] at h
  rcases mem_requests_bind h with h | ⟨_, -, h⟩
  · exact absurd rfl (service_ne_of_mem_preflight (List.mem_map_of_mem h))
  · rw [proceed, (silent_print _).requests_bind] at h
    cases hdry : plan.dryRun with
    | true =>
      rw [hdry, if_pos rfl, (silent_print _).requests_bind] at h
      cases h
    | false =>
      rw [hdry, if_neg Bool.false_ne_true] at h
      exact ⟨rfl, eq_of_mem_launch h⟩

theorem of_mem_provisionTask {files : Files} {inputs : Inputs}
    (h : .createStack s ∈ ((provisionTask files inputs).run w).requests) :
    inputs.dryRun = false ∧ ∃ config template, inputs.Describe files config template ∧
      s = .ofConfig config template := by
  rcases mem_requests_bind h with h | ⟨config, hconfig, h⟩
  · rw [run_loadConfig] at h
    cases h
  rw [run_loadConfig] at hconfig
  rcases mem_requests_bind h with h | ⟨template, htemplate, h⟩
  · rw [run_requiredTemplate] at h
    cases h
  rw [run_requiredTemplate] at htemplate
  rcases mem_requests_bind h with h | ⟨_, -, h⟩
  · cases h
  rw [requests_bind_of_nil requests_finish] at h
  obtain ⟨hdry, rfl⟩ := of_mem_provision h
  refine ⟨hdry, config, template, ⟨mapError_eq_ok_iff.mp hconfig, ?_⟩, rfl⟩
  cases hpath : inputs.templatePath with
  | none =>
    rw [hpath] at htemplate
    cases htemplate
  | some path =>
    rw [hpath] at htemplate
    exact ⟨path, rfl, mapError_eq_ok_iff.mp htemplate⟩

/-- A stack that a run submits is the one that its configuration and its template describe, and its
inputs ask for no dry run. -/
theorem of_mem_provisionCommand {files : Files} {env : Environment} {a : Arguments}
    (h : .createStack s ∈ ((provisionCommand files env a).run w).requests) :
    ∃ inputs, Command.provision.inputs env a = .ok inputs ∧ inputs.dryRun = false ∧
      ∃ config template, inputs.Describe files config template ∧
        s = .ofConfig config template := by
  cases hinputs : Command.provision.inputs env a with
  | error e =>
    have hresolve : Inputs.resolve env true a.raw = .error e := hinputs
    rw [provisionCommand, resolveInputs, hresolve] at h
    cases h
  | ok inputs =>
    change _ ∈ ((Command.provision.run files env a).run w).requests at h
    rw [Command.run_eq hinputs, requests_guarded] at h
    exact ⟨inputs, rfl, of_mem_provisionTask h⟩

end Requests

end ClusterLaunch
