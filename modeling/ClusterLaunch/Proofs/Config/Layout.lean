import ClusterLaunch.Config.Reader
import ClusterLaunch.Proofs.Guard
import ClusterLaunch.Proofs.Network.Membership

/-! # The declared layout

A configuration declares four networks and two addresses. The check of the networks accepts it
exactly when all of them can be read and the addresses are laid out soundly.
-/

namespace ClusterLaunch

open Network

structure Layout where
  vpc : Block
  inst : Block
  controller : Address
  pod : Block
  service : Block
  resolver : Address

namespace Layout

/-- The instances lie in the network of the cluster, which shares no address with the networks of
pods and services, and neither do these two. -/
structure Sound (l : Layout) : Prop where
  inst_subset : ∀ a ∈ l.inst, a ∈ l.vpc
  controller_mem : l.controller ∈ l.inst
  vpc_pod : ∀ a ∈ l.vpc, a ∉ l.pod
  vpc_service : ∀ a ∈ l.vpc, a ∉ l.service
  pod_service : ∀ a ∈ l.pod, a ∉ l.service
  resolver_mem : l.resolver ∈ l.service

end Layout

namespace Config

structure Declares (c : Config) (l : Layout) : Prop where
  vpc : Block.read (c.text .vpcCIDR) = .ok l.vpc
  inst : Block.read (c.text .instanceCIDR) = .ok l.inst
  controller : Address.read (c.text .controllerIP) = .ok l.controller
  pod : Block.read (c.text .podCIDR) = .ok l.pod
  service : Block.read (c.text .serviceCIDR) = .ok l.service
  resolver : Address.read (c.text .dnsServiceIP) = .ok l.resolver

theorem block_eq_ok_iff {c : Config} {s : TextSetting} {b : Block} :
    c.block s = .ok b ↔ Block.read (c.text s) = .ok b := mapError_eq_ok_iff

theorem address_eq_ok_iff {c : Config} {s : TextSetting} {a : Address} :
    c.address s = .ok a ↔ Address.read (c.text s) = .ok a := mapError_eq_ok_iff

theorem checkApart_eq_ok_iff {s t : TextSetting} {a b : Block} {u : Unit} :
    checkApart s a t b = .ok u ↔ ∀ x ∈ a, x ∉ b := by
  rw [checkApart, guard_eq_ok_iff, Bool.not_eq_true, Block.overlaps_eq_false_iff]
  simp

/-- The check of the networks accepts the configurations that declare a sound layout. -/
theorem checkNetwork_eq_ok_iff {c : Config} :
    c.checkNetwork = .ok () ↔ (c.text .routeTableId ≠ "" → c.text .vpcId ≠ "") ∧
      ∃ l, c.Declares l ∧ l.Sound := by
  simp only [checkNetwork, throw_eq_error, error_bind, guard_eq_ok_iff, bind_eq_ok_iff,
    block_eq_ok_iff, address_eq_ok_iff, checkApart_eq_ok_iff, exists_const, Bool.not_eq_true',
    Bool.not_eq_false, Block.contains_iff, Block.holds_iff, Bool.and_eq_true,
    decide_eq_true_eq, not_and]
  constructor
  · rintro ⟨hroute, vpc, hvpc, inst, hinst, hin, controller, hcontroller, hmem, pod, hpod,
      service, hservice, hvp, hvs, hps, resolver, hresolver, hres, -⟩
    exact ⟨hroute, ⟨vpc, inst, controller, pod, service, resolver⟩,
      ⟨hvpc, hinst, hcontroller, hpod, hservice, hresolver⟩, ⟨hin, hmem, hvp, hvs, hps, hres⟩⟩
  · rintro ⟨hroute, l, hd, hs⟩
    exact ⟨hroute, l.vpc, hd.vpc, l.inst, hd.inst, hs.inst_subset, l.controller, hd.controller,
      hs.controller_mem, l.pod, hd.pod, l.service, hd.service, hs.vpc_pod, hs.vpc_service,
      hs.pod_service, l.resolver, hd.resolver, hs.resolver_mem, rfl⟩

theorem declares_of_check {c : Config} (h : c.check = .ok ()) :
    ∃ l, c.Declares l ∧ l.Sound := by
  obtain ⟨_, -, _, -, hnetwork⟩ := by simpa only [check, bind_eq_ok_iff] using h
  exact (checkNetwork_eq_ok_iff.mp hnetwork).2

end Config

end ClusterLaunch
