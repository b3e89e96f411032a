import ClusterLaunch.Inputs
import ClusterLaunch.Proofs.Guard

/-! # The inputs that commands share

The commands look for their inputs in the same places. A command that has no use for a template
resolves all others as if it had.
-/

namespace ClusterLaunch.Inputs

variable {env : Environment} (configPath : Option Path) (profile : Option String)

theorem pathOf_of_unset (henv : filled (env "STACK_TEMPLATE") = none) :
    pathOf env "STACK_TEMPLATE" none none false = .ok none := by
  have hunset : (env "STACK_TEMPLATE").filter (· ≠ "") = none := henv
  unfold pathOf InputSource.resolve
  simp only [Option.map_none, hunset]
  rfl

theorem exists_textOf (env : Environment) (name : String) (given fallback : Option String) :
    ∃ input, textOf env name given fallback = .ok input := by
  cases given with
  | some s => exact ⟨_, rfl⟩
  | none =>
    unfold textOf InputSource.resolve
    cases (env name).filter (· ≠ "") with
    | some s => exact ⟨_, rfl⟩
    | none => exact ⟨_, rfl⟩

/-- A template that is given takes the place of one that is not required and not there. -/
theorem resolve_template (henv : filled (env "STACK_TEMPLATE") = none) (template : Path)
    (dryRun : Bool) :
    resolve env true ⟨configPath, some template, profile, none, none,
        some (if dryRun then "True" else "False")⟩ =
      (resolve env false ⟨configPath, none, profile, none, none, none⟩).map fun inputs =>
        { inputs with templatePath := some template, dryRun := dryRun } := by
  obtain ⟨flag, hflag⟩ := exists_textOf env "DRY_RUN" none (some "false")
  have hparse : parseFlag false (filled (some (if dryRun then "True" else "False"))) = dryRun := by
    cases dryRun <;> rfl
  have hgiven : pathOf env "STACK_TEMPLATE" (some template) none true = .ok (some template) := rfl
  have hdry : textOf env "DRY_RUN" (some (if dryRun then "True" else "False")) (some "false") =
      .ok (some (if dryRun then "True" else "False")) := rfl
  simp only [resolve, hflag, hgiven, hdry, pathOf_of_unset henv, ok_bind, hparse]
  cases pathOf env "CLUSTER_CONFIG" configPath (some defaultConfig) false with
  | error e => rfl
  | ok path =>
  cases textOf env "AWS_PROFILE" profile none with
  | error e => rfl
  | ok name =>
  cases secondsFrom env "STACK_POLL_INTERVAL" none defaultInterval with
  | error e => rfl
  | ok interval =>
  cases secondsFrom env "STACK_TIMEOUT" none defaultLimit <;> rfl

theorem templatePath_eq_none (henv : filled (env "STACK_TEMPLATE") = none) {inputs : Inputs}
    (h : resolve env false ⟨configPath, none, profile, none, none, none⟩ = .ok inputs) :
    inputs.templatePath = none := by
  rw [resolve, pathOf_of_unset henv] at h
  obtain ⟨_, -, h⟩ := bind_eq_ok_iff.mp h
  rw [ok_bind] at h
  obtain ⟨_, -, h⟩ := bind_eq_ok_iff.mp h
  obtain ⟨_, -, h⟩ := bind_eq_ok_iff.mp h
  obtain ⟨_, -, h⟩ := bind_eq_ok_iff.mp h
  obtain ⟨_, -, h⟩ := bind_eq_ok_iff.mp h
  cases h
  rfl

end ClusterLaunch.Inputs
