import ClusterLaunch.Proofs.Command.ExitStatus
import ClusterLaunch.Proofs.Command.Opening
import ClusterLaunch.Proofs.Config.Loading
import ClusterLaunch.Proofs.Provision.Failures

/-! # Commands that meet bad files

A fault of one of the files is the end of a command. It is reported if it belongs to a family, and
breaks the command off if it belongs to none. With a fair service only the host breaks it off
otherwise: by a line that it does not take or a pause that it cannot make.
-/

namespace ClusterLaunch

open Failure Session

/-- A command meets a fault of one of its files when it reads them. Both read the configuration
first. The command that creates a stack reads its template at once, the other one after the
preflight, and so after the line that it writes before. -/
inductive Command.Meets (files : Files) (inputs : Inputs) (w : World) (host : Host) :
    Command → ConfigError → Prop
  | config {c : Command} {f : ConfigError} (h : Config.load files inputs.configPath = .error f) :
      Meets files inputs w host c f
  | required {config : Config} {path : Path} {f : ConfigError}
      (hload : Config.load files inputs.configPath = .ok config)
      (hpath : inputs.templatePath = some path) (h : readText files .template path = .error f) :
      Meets files inputs w host .provision f
  | checked {config : Config} {path : Path} {f : ConfigError}
      (hload : Config.load files inputs.configPath = .ok config)
      (hconnection : w.connection = none)
      (hline : host.untaken? (Command.validate.openings config) = none)
      (hpreflight : ((preflight config).run w).outcome = .ok ())
      (hpath : inputs.templatePath = some path) (h : readText files .template path = .error f) :
      Meets files inputs w host .validate f

/-- A fair service: clients can be made, or it says why not, and so do its answers. -/
structure World.Fair (w : World) : Prop where
  answers : ∀ m, w.answers.Fair m
  connection : ∀ e, w.connection = some e → e.OfService

section Task

variable {files : Files} {inputs : Inputs} {w : World} {host : Host} {P : Failure → Prop}

/-- A fault of a file that a command meets is what its task comes to. -/
theorem Command.Meets.outcome {c : Command} {f : ConfigError} (h : c.Meets files inputs w host f) :
    ((c.task files inputs).run w).outcome = .error (.config f) := by
  cases h with
  | config h => exact congrArg Run.outcome (run_task_of_load_error c h)
  | required hload hpath h =>
    exact congrArg Run.outcome (run_provisionTask_of_template_error hload hpath h)
  | checked hload hconnection _ hpreflight hpath h =>
    rw [outcome_preflight] at hpreflight
    rw [Command.task, outcome_validateTask, validateVerdict, hload, mapError_ok, ok_bind,
      hconnection, hpreflight, hpath, templateVerdict, h]
    rfl

/-- Its family, if it has one, is that of the configuration. -/
theorem Command.Meets.family {c : Command} {f : ConfigError} (h : c.Meets files inputs w host f)
    {family : Family} (hfamily : f.family? = some family) :
    family = .clusterConfig ∨ family = .networkFormat := by
  have htemplate : ∀ path, readText files .template path = .error f →
      family = .clusterConfig ∨ family = .networkFormat := by
    intro path hread
    rcases readText_error hread with hknown | ⟨hnone, -⟩
    · exact .inl (Option.some.inj (hfamily.symm.trans hknown))
    · cases hfamily.symm.trans hnone
  cases h with
  | config h =>
    obtain (hknown | hknown) | ⟨hnone, -⟩ := Config.failsWith_load _ _ f h
    · exact .inl (Option.some.inj (hfamily.symm.trans hknown))
    · exact .inr (Option.some.inj (hfamily.symm.trans hknown))
    · cases hfamily.symm.trans hnone
  | required _ _ h => exact htemplate _ h
  | checked _ _ _ _ _ h => exact htemplate _ h

/-- The host takes all that a command writes before it meets a fault of a file. -/
theorem Command.Meets.admits {c : Command} {f : ConfigError} (h : c.Meets files inputs w host f) :
    host.Admits ((c.task files inputs).run w).events := by
  cases h with
  | config h =>
    rw [run_task_of_load_error c h]
    exact List.forall_mem_singleton.mpr rfl
  | required hload hpath h =>
    rw [task, run_provisionTask_of_template_error hload hpath h]
    exact List.forall_mem_singleton.mpr rfl
  | @checked config _ _ hload _ hline _ hpath h =>
    have hadmits : host.AdmitsUntil ∅ ((validateTask files inputs).run w).events := by
      refine admitsUntil_validateTask (fun config' hload' _ => ?_) fun v => ?_
      · cases hload.symm.trans hload'
        exact hline
      · rw [hpath, events_checkRest_of_error h]
        exact Host.admits_nil.admitsUntil ∅
    exact hadmits.admits fun _ _ => Set.notMem_empty _

end Task

def Files.absent : Files := fun _ => .error .notFound

end ClusterLaunch
