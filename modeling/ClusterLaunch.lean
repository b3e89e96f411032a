import ClusterLaunch.Files.Tree
import ClusterLaunch.Main
import ClusterLaunch.Proofs.Command.BadFiles
import ClusterLaunch.Proofs.Command.DryRun
import ClusterLaunch.Proofs.Command.FailedStack
import ClusterLaunch.Proofs.Command.Fidelity
import ClusterLaunch.Proofs.Config.Notation
import ClusterLaunch.Proofs.Config.Tags
import ClusterLaunch.Proofs.Inputs.Durations
import ClusterLaunch.Proofs.Network.Comparison
import ClusterLaunch.Proofs.Network.Rendering
import ClusterLaunch.Proofs.Preflight.Conflict
import ClusterLaunch.Proofs.Preflight.SubnetListing
import ClusterLaunch.Proofs.Preflight.ZoneLookup
