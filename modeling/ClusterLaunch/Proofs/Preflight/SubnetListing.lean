import ClusterLaunch.Proofs.Cloud.Visits
import ClusterLaunch.Proofs.Preflight.Acceptance

/-! # The listing of subnets

The state of a live network holds the blocks of all subnets on all pages, in the order in which they
are reported. Only a reply with one network that has a block leads to a listing.
-/

namespace ClusterLaunch

open Session

def ReportedSubnet.blocks (subnets : List ReportedSubnet) : List String :=
  (subnets.map fun s => s.block.getD "").filter (· ≠ "")

def SubnetPage.Continues (page : SubnetPage) : Prop :=
  ∃ token, page.nextToken = some token ∧ token ≠ ""

theorem SubnetPage.goesOn_iff (page : SubnetPage) : page.goesOn = true ↔ page.Continues := by
  rw [goesOn, Option.isSome_iff_exists]
  simp only [filled_eq_some_iff, Continues]

def ReportedVpc.idOr (vpc : ReportedVpc) (id : String) : String := (filled vpc.id).getD id

/-- A reply reports exactly one network, and that has a block. -/
def ReportedVpc.Usable (vpcs : List ReportedVpc) : Prop :=
  ∃ vpc block, vpcs = [vpc] ∧ vpc.block = some block ∧ block ≠ ""

namespace NetworkState

variable {id region : String} {w : World} {vpc : ReportedVpc} {vpcs : List ReportedVpc}
  {pages : List SubnetPage}

theorem visits_iff_listing {a : Answers} : Visits .describeSubnets SubnetPage.Continues a pages ↔
    listing .describeSubnets SubnetPage.goesOn (a .describeSubnets) = .ok pages :=
  visits_iff SubnetPage.goesOn_iff

theorem cursors_of_visits {a : Answers}
    (h : Visits .describeSubnets SubnetPage.Continues a pages) :
    cursors (fun _ page => nextSubnets page) none (a .describeSubnets) =
      none :: pages.dropLast.map fun page => page.nextToken :=
  cursors_token_of_listing (m := .describeSubnets) SubnetPage.nextToken
    (visits_iff_listing.mp h)

theorem flatMap_blocksOf (pages : List SubnetPage) :
    pages.flatMap blocksOf = ReportedSubnet.blocks (pages.flatMap fun page => page.subnets) := by
  have hfields : ∀ subnets : List ReportedSubnet,
      (subnets.filterMap fun s => filled s.block) = ReportedSubnet.blocks subnets := by
    intro subnets
    rw [ReportedSubnet.blocks, ← Function.comp_def filled, ← List.filterMap_map, filterMap_filled,
      List.map_map]
    rfl
  rw [← hfields, List.filterMap_flatMap]
  rfl

theorem requests_fetch_of_block {block : String} (hvpc : w.answers.next .describeVpcs = .ok [vpc])
    (hblock : filled vpc.block = some block) :
    ((fetch id region).run w).requests = .describeVpcs id ::
      (cursors (fun _ page => nextSubnets page) none (w.answers .describeSubnets)).map
        (.describeSubnets (vpc.idOr id)) := by
  have hone : ((describeVpc id region).run w).outcome = .ok vpc := by
    rw [outcome_describeVpc]
    exact vpcOfAnswers_eq_ok_iff.mpr hvpc
  have hkept : ((describeVpc id region).run w).world.answers .describeSubnets =
      w.answers .describeSubnets :=
    (follows_describeVpc id region).answers_eq (by rintro _ rfl; decide)
  rw [fetch, requests_bind_ok hone, requests_describeVpc, hblock]
  apply congrArg (Request.describeVpcs id :: ·)
  change Run.requests (Session.run (subnetBlocks _ >>= fun subnets => pure _) _) = _
  rw [requests_bind_of_nil fun _ _ => rfl, requests_subnetBlocks, hkept]
  rfl

/-- Without a network that has a block no subnets are listed. -/
theorem requests_fetch_of_not_usable (hvpcs : w.answers.next .describeVpcs = .ok vpcs)
    (h : ¬ ReportedVpc.Usable vpcs) : ((fetch id region).run w).requests = [.describeVpcs id] := by
  cases hone : ((describeVpc id region).run w).outcome with
  | error e => rw [fetch, requests_bind_error hone, requests_describeVpc]
  | ok vpc =>
    rw [fetch, requests_bind_ok hone, requests_describeVpc]
    rw [outcome_describeVpc, vpcOfAnswers_eq_ok_iff, hvpcs] at hone
    cases hblock : filled vpc.block with
    | none => rfl
    | some block =>
      obtain ⟨hblock, hne⟩ := filled_eq_some_iff.mp hblock
      exact absurd ⟨vpc, block, Except.ok.inj hone, hblock, hne⟩ h

theorem ofAnswers_of_not_usable {a : Answers} (hvpcs : a.next .describeVpcs = .ok vpcs)
    (h : ¬ ReportedVpc.Usable vpcs) :
    ∃ e : PreflightError, ofAnswers id region a = .error (.preflight e) ∧
      e.family = if vpcs = [] then .networkNotFound else .preflight := by
  have hsole : vpcOfAnswers id region a = sole id region vpcs := by
    rw [vpcOfAnswers, hvpcs]
    rfl
  rw [ofAnswers, hsole]
  obtain _ | ⟨vpc, _ | ⟨other, others⟩⟩ := vpcs
  · exact ⟨.vpcNotFound id region, rfl, rfl⟩
  · refine ⟨.vpcWithoutBlock id, ?_, rfl⟩
    cases hblock : filled vpc.block with
    | none =>
      rw [sole, ok_bind]
      simp only [hblock]
    | some block =>
      obtain ⟨hblock, hne⟩ := filled_eq_some_iff.mp hblock
      exact absurd ⟨vpc, block, rfl, hblock, hne⟩ h
  · exact ⟨.manyVpcs _ id, rfl, rfl⟩

/-- Two worlds that report the same networks, and the same subnets on whatever pages, report the
same state. -/
theorem ofAnswers_congr {a b : Answers} {pages' : List SubnetPage}
    (hvpcs : a.next .describeVpcs = b.next .describeVpcs)
    (hpages : Visits .describeSubnets SubnetPage.Continues a pages)
    (hpages' : Visits .describeSubnets SubnetPage.Continues b pages')
    (hsame : (pages.flatMap fun page => page.subnets) = pages'.flatMap fun page => page.subnets) :
    ofAnswers id region a = ofAnswers id region b := by
  rw [ofAnswers, ofAnswers, vpcOfAnswers, vpcOfAnswers, hvpcs, visits_iff_listing.mp hpages,
    visits_iff_listing.mp hpages']
  simp only [ok_bind, flatMap_blocksOf, hsame]

/-- If exactly one network is reported and it has a block, then the state has the identifier that
was asked for, that block and the blocks of all subnets of all visited pages, each of which was
asked for with the identifier that the network goes by and the token of the page before. Otherwise
the look-up fails and lists nothing. How the subnets are spread over pages does not matter. -/
theorem fetch_lists_all_subnets (id region : String) (w : World) :
    let r := (fetch id region).run w
    (∀ vpc block pages, w.answers.next .describeVpcs = .ok [vpc] → vpc.block = some block →
      block ≠ "" → Visits .describeSubnets SubnetPage.Continues w.answers pages →
      r.outcome = .ok
        ⟨id, block, ReportedSubnet.blocks (pages.flatMap fun page => page.subnets)⟩ ∧
      r.requests = .describeVpcs id :: .describeSubnets (vpc.idOr id) none ::
        pages.dropLast.map fun page => .describeSubnets (vpc.idOr id) page.nextToken) ∧
    (∀ vpcs, w.answers.next .describeVpcs = .ok vpcs → ¬ ReportedVpc.Usable vpcs →
      r.requests = [.describeVpcs id] ∧ ∃ e : PreflightError, r.outcome = .error (.preflight e) ∧
        e.family = if vpcs = [] then .networkNotFound else .preflight) ∧
    ∀ v pages pages', v.answers.next .describeVpcs = w.answers.next .describeVpcs →
      Visits .describeSubnets SubnetPage.Continues v.answers pages →
      Visits .describeSubnets SubnetPage.Continues w.answers pages' →
      (pages.flatMap fun page => page.subnets) = (pages'.flatMap fun page => page.subnets) →
      ((fetch id region).run v).outcome = r.outcome := by
  dsimp only
  simp only [outcome_fetch]
  refine ⟨?_, fun vpcs hvpcs h => ⟨requests_fetch_of_not_usable hvpcs h,
    ofAnswers_of_not_usable hvpcs h⟩, fun v pages pages' => ofAnswers_congr⟩
  intro vpc block pages hvpc hblock hne hpages
  have hfilled : filled vpc.block = some block := filled_eq_some_iff.mpr ⟨hblock, hne⟩
  constructor
  · rw [← flatMap_blocksOf]
    exact ofAnswers_eq_ok_iff.mpr
      ⟨vpc, block, pages, hvpc, hfilled, visits_iff_listing.mp hpages, rfl⟩
  · rw [requests_fetch_of_block hvpc hfilled, cursors_of_visits hpages, List.map_cons,
      List.map_map]
    rfl

end NetworkState

/-- Three pages of subnets: one subnet is without a block, the second page is empty, and the block
on the third page is that on the first one. -/
def SubnetPage.sparse : List SubnetPage :=
  [⟨[⟨.missing, some "10.0.1.0/24"⟩, ⟨.missing, none⟩], some "second"⟩, ⟨[], some "third"⟩,
    ⟨[⟨.missing, some "10.0.1.0/24"⟩], none⟩]

def World.sparseSubnets : World where
  answers
    | .describeVpcs => [⟨0.0, .ok [⟨some "vpc-2", some "10.0.0.0/16"⟩]⟩]
    | .describeSubnets => SubnetPage.sparse.map fun page => ⟨0.0, .ok page⟩
    | _ => []

theorem fetch_lists_sparse_subnets :
    Visits .describeSubnets SubnetPage.Continues World.sparseSubnets.answers SubnetPage.sparse ∧
    let r := (NetworkState.fetch "vpc-1" "eu-west-1").run World.sparseSubnets
    r.outcome = .ok ⟨"vpc-1", "10.0.0.0/16", ["10.0.1.0/24", "10.0.1.0/24"]⟩ ∧
      r.requests = [.describeVpcs "vpc-1", .describeSubnets "vpc-2" none,
        .describeSubnets "vpc-2" (some "second"), .describeSubnets "vpc-2" (some "third")] := by
  have hpages : Visits .describeSubnets SubnetPage.Continues World.sparseSubnets.answers
      SubnetPage.sparse := by
    refine ⟨List.prefix_rfl, SubnetPage.sparse.take 2, SubnetPage.sparse[2], rfl, ?_, nofun⟩
    exact List.forall_mem_cons.mpr ⟨⟨_, rfl, by decide⟩,
      List.forall_mem_singleton.mpr ⟨_, rfl, by decide⟩⟩
  exact ⟨hpages, (NetworkState.fetch_lists_all_subnets "vpc-1" "eu-west-1" World.sparseSubnets).1
    ⟨some "vpc-2", some "10.0.0.0/16"⟩ "10.0.0.0/16" SubnetPage.sparse rfl rfl (by decide) hpages⟩

end ClusterLaunch
