import ClusterLaunch.Proofs.Cloud.Fairness
import ClusterLaunch.Proofs.Config.Acceptance
import ClusterLaunch.Proofs.Preflight.Verdict

/-! # What the preflight fails with

With fair answers, whatever the checks find wrong is a failure that the tools report.
-/

namespace ClusterLaunch

open Failure

variable {a : Answers} (config : Config)

theorem foreseen_preflight (e : PreflightError) : (Failure.preflight e).Foreseen := .reported rfl

theorem foreseen_config {e : ConfigError} {family : Family} (h : e.family? = some family) :
    (Failure.config e).Foreseen :=
  .reported (congrArg Option.isSome h)

namespace NetworkState

theorem failsWith_checkSubnets (inst : Network.Block) (subnets : List String) :
    FailsWith Foreseen (checkSubnets inst subnets) := by
  induction subnets with
  | nil => exact failsWith_ok ()
  | cons subnet rest ih =>
    unfold checkSubnets
    split
    · exact failsWith_error (foreseen_config rfl)
    · exact failsWith_guard (fun _ => foreseen_preflight _) ih

theorem failsWith_check (state : NetworkState) : FailsWith Foreseen (check config state) := by
  simp only [check, throw_eq_error, error_bind]
  refine failsWith_guard (fun _ => foreseen_preflight _) (FailsWith.bind ?_ fun inst _ => ?_)
  · refine failsWith_mapError fun e he => ?_
    rcases config.failsWith_block (by decide) e he with h | ⟨h, -⟩ <;> exact foreseen_config h
  · exact failsWith_checkSubnets inst state.subnets

end NetworkState

end ClusterLaunch
