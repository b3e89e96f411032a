import ClusterLaunch.Proofs.Config.Layout
import ClusterLaunch.Proofs.Preflight.Acceptance

/-! # Where the instances are placed

The check of a configuration and the check of its network together keep the instances inside the
live network and clear of its subnets, of the pods and of the services.
-/

namespace ClusterLaunch

open Network Session

/-- A layout has its place in a live network beside the subnets that are there. -/
structure Layout.Placed (l : Layout) (live : Block) (subnets : Set Block) : Prop where
  inst_live : ∀ a ∈ l.inst, a ∈ live
  inst_free : ∀ a ∈ l.inst, ∀ subnet ∈ subnets, a ∉ subnet
  controller_live : l.controller ∈ live
  controller_free : ∀ subnet ∈ subnets, l.controller ∉ subnet
  live_pod : ∀ a ∈ live, a ∉ l.pod
  live_service : ∀ a ∈ live, a ∉ l.service
  pod_service : ∀ a ∈ l.pod, a ∉ l.service
  resolver_service : l.resolver ∈ l.service
  resolver_live : l.resolver ∉ live
  resolver_pod : l.resolver ∉ l.pod
  resolver_ne : l.resolver ≠ l.controller

theorem Layout.Sound.placed {l : Layout} (h : l.Sound) {subnets : Set Block}
    (hfree : ∀ a ∈ l.inst, ∀ subnet ∈ subnets, a ∉ subnet) : l.Placed l.vpc subnets where
  inst_live := h.inst_subset
  inst_free := hfree
  controller_live := h.inst_subset _ h.controller_mem
  controller_free := hfree _ h.controller_mem
  live_pod := h.vpc_pod
  live_service := h.vpc_service
  pod_service := h.pod_service
  resolver_service := h.resolver_mem
  resolver_live := fun hmem => h.vpc_service _ hmem h.resolver_mem
  resolver_pod := fun hmem => h.pod_service _ hmem h.resolver_mem
  resolver_ne := fun heq =>
    h.vpc_service _ (heq ▸ h.inst_subset _ h.controller_mem) h.resolver_mem

namespace NetworkState

theorem methods_subnetBlocks {vpc : String} {w : World} {subnets : List String}
    (h : ((subnetBlocks vpc).run w).outcome = .ok subnets) :
    ∃ pages, listing .describeSubnets SubnetPage.goesOn (w.answers .describeSubnets) = .ok pages ∧
      ((subnetBlocks vpc).run w).methods = List.replicate pages.length .describeSubnets := by
  rw [outcome_subnetBlocks] at h
  obtain ⟨pages, hpages, -⟩ := bind_eq_ok_iff.mp h
  have hall := (outcome_allPages (fetches_fetchSubnets vpc) (fun _ => isSome_nextSubnets) none
    w).trans hpages
  refine ⟨pages, hpages, ?_⟩
  rw [subnetBlocks, methods_bind_ok hall, methods_allPages (fetches_fetchSubnets vpc) hall]
  exact List.append_nil _

/-- The state of a network takes one request for the network and one for every page of subnets. -/
theorem methods_fetch {id region : String} {w : World} {state : NetworkState}
    (h : ((fetch id region).run w).outcome = .ok state) :
    ∃ pages, listing .describeSubnets SubnetPage.goesOn (w.answers .describeSubnets) = .ok pages ∧
      ((fetch id region).run w).methods =
        .describeVpcs :: List.replicate pages.length .describeSubnets := by
  have hkept : ((describeVpc id region).run w).world.answers .describeSubnets =
      w.answers .describeSubnets :=
    (follows_describeVpc id region).answers_eq (by rintro _ rfl; decide)
  obtain ⟨vpc, hvpc, h⟩ := outcome_bind_eq_ok_iff.mp h
  rw [fetch, methods_bind_ok hvpc, (follows_describeVpc id region w).ends vpc hvpc]
  cases hblock : filled vpc.block with
  | none =>
    rw [hblock] at h
    cases h
  | some block =>
    rw [hblock] at h
    obtain ⟨subnets, hsubnets, -⟩ := outcome_bind_eq_ok_iff.mp h
    obtain ⟨pages, hpages, hmethods⟩ := methods_subnetBlocks hsubnets
    refine ⟨pages, hkept ▸ hpages, ?_⟩
    change [.describeVpcs] ++ Run.methods (Session.run (subnetBlocks _ >>= _) _) = _
    rw [methods_bind_ok hsubnets, hmethods]
    exact congrArg (Method.describeVpcs :: ·) (List.append_nil _)

end NetworkState

theorem methods_checkVpc {config : Config} {w : World} (hid : config.text .vpcId ≠ "")
    (h : ((checkVpc config).run w).outcome = .ok ()) :
    ∃ pages, listing .describeSubnets SubnetPage.goesOn (w.answers .describeSubnets) = .ok pages ∧
      ((checkVpc config).run w).methods =
        .describeVpcs :: List.replicate pages.length .describeSubnets := by
  unfold checkVpc at h ⊢
  simp only [hid, if_false] at h ⊢
  obtain ⟨_, hlog, h⟩ := outcome_bind_eq_ok_iff.mp h
  obtain ⟨state, hstate, -⟩ := outcome_bind_eq_ok_iff.mp h
  obtain ⟨pages, hpages, hmethods⟩ := NetworkState.methods_fetch hstate
  refine ⟨pages, hpages, ?_⟩
  rw [methods_bind_ok hlog, methods_bind_ok hstate, hmethods, run_ofResult]
  exact List.append_nil _

def SubnetPage.blocks (pages : List SubnetPage) : Set Block :=
  {b | ∃ text ∈ pages.flatMap NetworkState.blocksOf, Block.read text = .ok b}

/-- If a configuration passes its own check and the check of its network, then its layout has its
place in the live network beside all subnets that the answers report. -/
theorem placement_safe {config : Config} {w : World} (hid : config.text .vpcId ≠ "")
    (hcheck : config.check = .ok ()) (hvpc : ((checkVpc config).run w).outcome = .ok ()) :
    ∃ (l : Layout) (vpc : ReportedVpc) (text : String) (live : Block) (pages : List SubnetPage),
      config.Declares l ∧
      w.answers.next .describeVpcs = .ok [vpc] ∧ vpc.block = some text ∧
      Block.read text = .ok live ∧
      listing .describeSubnets SubnetPage.goesOn (w.answers .describeSubnets) = .ok pages ∧
      ((checkVpc config).run w).methods =
        .describeVpcs :: List.replicate pages.length .describeSubnets ∧
      (∀ text ∈ pages.flatMap NetworkState.blocksOf, ∃ b, Block.read text = .ok b) ∧
      l.Placed live (SubnetPage.blocks pages) := by
  obtain ⟨l, hl, hsound⟩ := Config.declares_of_check hcheck
  obtain ⟨pages, hpages, hmethods⟩ := methods_checkVpc hid hvpc
  rw [outcome_checkVpc, networkVerdict_eq_ok_iff, or_iff_right hid] at hvpc
  obtain ⟨vpc, inst, pages', hreply, hblock, -, hinst, hpages', hfree⟩ := hvpc
  obtain rfl : pages' = pages := Except.ok.inj (hpages'.symm.trans hpages)
  obtain rfl : inst = l.inst := Except.ok.inj (hinst.symm.trans hl.inst)
  have hread : ∀ text ∈ pages'.flatMap NetworkState.blocksOf,
      ∃ b, Block.read text = .ok b ∧ ∀ a ∈ l.inst, a ∉ b :=
    NetworkState.forall_mem_blocks.mpr hfree
  refine ⟨l, vpc, _, l.vpc, pages', hl, hreply, hblock, hl.vpc, hpages, hmethods, ?_, ?_⟩
  · intro text htext
    obtain ⟨b, hb, -⟩ := hread text htext
    exact ⟨b, hb⟩
  · refine hsound.placed fun a ha subnet hsubnet => ?_
    obtain ⟨text, htext, hb⟩ := hsubnet
    obtain ⟨b, hb', hfree⟩ := hread text htext
    obtain rfl : b = subnet := Except.ok.inj (hb'.symm.trans hb)
    exact hfree a ha

/-- A configuration that names an existing network and keeps the default layout. -/
def Config.inPlace : Config :=
  [(.externalDNSName, "api.example.com"), (.keyName, "ops"), (.region, "eu-west-1"),
    (.availabilityZone, "eu-west-1a"), (.clusterName, "blue"), (.kmsKeyArn, "arn:aws:kms:key"),
    (.vpcId, "vpc-1")].foldl (fun c (s, text) => c.setText s text) Config.initial

def SubnetPage.pair : List SubnetPage :=
  [⟨[⟨.given "subnet-1", some "10.0.1.0/24"⟩], some "more"⟩,
    ⟨[⟨.missing, none⟩, ⟨.given "subnet-2", some "10.0.2.7/24"⟩], none⟩]

/-- A network that has room for the default layout. -/
def World.roomy : World where
  answers
    | .describeVpcs => [⟨0.0, .ok [⟨some "vpc-1", some "10.0.0.0/16"⟩]⟩]
    | .describeSubnets => SubnetPage.pair.map fun page => ⟨0.0, .ok page⟩
    | _ => []

theorem placement_safe_roomy :
    ∃ l live, Config.inPlace.Declares l ∧ Block.read "10.0.0.0/16" = .ok live ∧
      l.Placed live (SubnetPage.blocks SubnetPage.pair) := by
  have hcheck : Config.inPlace.check = .ok () := rfl
  have hvpc : ((checkVpc Config.inPlace).run World.roomy).outcome = .ok () := rfl
  obtain ⟨l, _, _, live, _, hl, hreply, hblock, hread, hpages, -, -, hplaced⟩ :=
    placement_safe (by decide) hcheck hvpc
  cases hreply
  cases hblock
  cases hpages
  exact ⟨l, live, hl, hread, hplaced⟩

end ClusterLaunch
