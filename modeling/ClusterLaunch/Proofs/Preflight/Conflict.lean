import ClusterLaunch.Proofs.Preflight.Acceptance

/-! # What conflicts with a live network

The text of the network block is compared first, then the block of the instances is read, and then
the first subnet that is malformed or meets it decides. Only that block counts, not its text, and
subnets after the one that decides do not.
-/

namespace ClusterLaunch

open Network

/-- A written subnet leaves a block free: it can be read and shares no address with it. -/
def LeavesFree (inst : Block) (subnet : String) : Prop :=
  ∃ block, Block.read subnet = .ok block ∧ ∀ x ∈ inst, x ∉ block

inductive SubnetFault (inst : Block) (subnet : String) : Failure → Prop
  | malformed {e : FormatError} (h : Block.read subnet = .error e) :
      SubnetFault inst subnet (.config (.format e))
  | shared {block : Block} {x : Address} (h : Block.read subnet = .ok block) (hinst : x ∈ inst)
      (hblock : x ∈ block) : SubnetFault inst subnet (.preflight (.subnetOverlap inst subnet))

namespace NetworkState

variable {config : Config} {state : NetworkState} {inst : Block} {subnet : String}
  {subnets rest : List String} {f : Failure}

theorem leavesFree_or_fault (inst : Block) (subnet : String) :
    LeavesFree inst subnet ∨ ∃ f, SubnetFault inst subnet f := by
  cases hread : Block.read subnet with
  | error e => exact .inr ⟨_, .malformed hread⟩
  | ok block =>
    by_cases h : ∃ x, x ∈ inst ∧ x ∈ block
    · obtain ⟨x, hinst, hblock⟩ := h
      exact .inr ⟨_, .shared hread hinst hblock⟩
    · exact .inl ⟨block, hread, fun x hinst hblock => h ⟨x, hinst, hblock⟩⟩

theorem checkSubnets_cons_of_free (h : LeavesFree inst subnet) :
    checkSubnets inst (subnet :: rest) = checkSubnets inst rest := by
  obtain ⟨block, hread, hfree⟩ := h
  rw [checkSubnets, hread]
  simp only [Block.overlaps_eq_false_iff.mpr hfree, Bool.false_eq_true, if_false]

theorem checkSubnets_cons_of_fault (h : SubnetFault inst subnet f) :
    checkSubnets inst (subnet :: rest) = .error f := by
  cases h with
  | malformed hread => rw [checkSubnets, hread]
  | shared hread hinst hblock =>
    rw [checkSubnets, hread]
    simp only [Block.overlaps_iff.mpr ⟨_, hinst, hblock⟩, if_true]

/-- The check of subnets fails with the fault of the first that has one. -/
theorem checkSubnets_eq_error_iff :
    checkSubnets inst subnets = .error f ↔ ∃ before subnet after,
      subnets = before ++ subnet :: after ∧ (∀ s ∈ before, LeavesFree inst s) ∧
        SubnetFault inst subnet f := by
  constructor
  · intro h
    induction subnets with
    | nil => cases h
    | cons subnet rest ih =>
      rcases leavesFree_or_fault inst subnet with hfree | ⟨g, hg⟩
      · rw [checkSubnets_cons_of_free hfree] at h
        obtain ⟨before, s, after, rfl, hbefore, hs⟩ := ih h
        exact ⟨subnet :: before, s, after, rfl, List.forall_mem_cons.mpr ⟨hfree, hbefore⟩, hs⟩
      · rw [checkSubnets_cons_of_fault hg] at h
        cases h
        exact ⟨[], subnet, rest, rfl, nofun, hg⟩
  · rintro ⟨before, subnet, after, rfl, hbefore, hf⟩
    induction before with
    | nil => exact checkSubnets_cons_of_fault hf
    | cons s before ih =>
      obtain ⟨hs, hbefore⟩ := List.forall_mem_cons.mp hbefore
      exact (checkSubnets_cons_of_free hs).trans (ih hbefore)

theorem checkSubnets_append_of_error (h : checkSubnets inst subnets = .error f) :
    checkSubnets inst (subnets ++ rest) = .error f := by
  obtain ⟨before, subnet, after, rfl, hbefore, hf⟩ := checkSubnets_eq_error_iff.mp h
  exact checkSubnets_eq_error_iff.mpr
    ⟨before, subnet, after ++ rest, List.append_assoc .., hbefore, hf⟩

theorem check_of_ne (h : config.text .vpcCIDR ≠ state.block) :
    check config state =
      .error (.preflight (.blockMismatch (config.text .vpcCIDR) state.block)) := by
  rw [check, if_pos h]
  rfl

theorem check_of_malformed {e : FormatError} (h : config.text .vpcCIDR = state.block)
    (hinst : Block.read (config.text .instanceCIDR) = .error e) :
    check config state = .error (.config (.format e)) := by
  rw [check, if_neg (not_not.mpr h), Config.block, hinst]
  rfl

theorem check_of_read (h : config.text .vpcCIDR = state.block)
    (hinst : Block.read (config.text .instanceCIDR) = .ok inst) :
    check config state = checkSubnets inst state.subnets := by
  rw [check, if_neg (not_not.mpr h), Config.block, hinst]
  rfl

theorem check_eq_ok_iff_free : check config state = .ok () ↔
    config.text .vpcCIDR = state.block ∧ ∃ inst, Block.read (config.text .instanceCIDR) = .ok inst ∧
      ∀ s ∈ state.subnets, LeavesFree inst s := by
  simp only [check_eq_ok_iff, checkSubnets_eq_ok_iff, LeavesFree]

theorem check_of_subset (hsub : subnets ⊆ state.subnets) (h : check config state = .ok ()) :
    check config { state with subnets } = .ok () := by
  obtain ⟨heq, inst, hinst, hfree⟩ := check_eq_ok_iff_free.mp h
  exact check_eq_ok_iff_free.mpr ⟨heq, inst, hinst, fun s hs => hfree s (hsub hs)⟩

theorem check_append_of_error (h : check config state = .error f) :
    check config { state with subnets := state.subnets ++ subnets } = .error f := by
  by_cases heq : config.text .vpcCIDR = state.block
  · cases hinst : Block.read (config.text .instanceCIDR) with
    | error e =>
      rw [check_of_malformed heq hinst] at h
      exact Eq.trans (check_of_malformed heq hinst) h
    | ok inst =>
      rw [check_of_read heq hinst] at h
      exact Eq.trans (check_of_read heq hinst) (checkSubnets_append_of_error h)
  · rw [check_of_ne heq] at h
    exact Eq.trans (check_of_ne heq) h

/-- The text of the block of the instances matters only for what it writes. -/
theorem check_setText {text : String} (hinst : Block.read (config.text .instanceCIDR) = .ok inst)
    (htext : Block.read text = .ok inst) :
    check (config.setText .instanceCIDR text) state = check config state := by
  have hvpc : (config.setText .instanceCIDR text).text .vpcCIDR = config.text .vpcCIDR :=
    config.text_setText_of_ne (by decide) text
  have hread : Block.read ((config.setText .instanceCIDR text).text .instanceCIDR) = .ok inst := by
    rw [Config.text_setText_self, htext]
  by_cases heq : config.text .vpcCIDR = state.block
  · rw [check_of_read heq hinst, check_of_read (hvpc.trans heq) hread]
  · have hne : (config.setText .instanceCIDR text).text .vpcCIDR ≠ state.block := hvpc ▸ heq
    rw [check_of_ne heq, check_of_ne hne, hvpc]

theorem eq_of_check_mismatch {configured actual : String}
    (h : check config state = .error (.preflight (.blockMismatch configured actual))) :
    config.text .vpcCIDR ≠ state.block := by
  intro heq
  cases hinst : Block.read (config.text .instanceCIDR) with
  | error e =>
    rw [check_of_malformed heq hinst] at h
    cases h
  | ok inst =>
    rw [check_of_read heq hinst] at h
    obtain ⟨_, _, _, -, -, hf⟩ := checkSubnets_eq_error_iff.mp h
    cases hf

/-- A configuration conflicts with a live network exactly if the texts of the network blocks
differ, or else its own block is malformed, or else some subnet does not leave it free; the first
such subnet is the fault. So the order and the number of the subnets have no part in whether there
is a conflict, fewer subnets make none, more of them do not change one, and neither does another
text for the block of the instances. -/
theorem check_finds_first_conflict (config : Config) (state : NetworkState) :
    (check config state =
        .error (.preflight (.blockMismatch (config.text .vpcCIDR) state.block)) ↔
      config.text .vpcCIDR ≠ state.block) ∧
    (config.text .vpcCIDR = state.block →
      (∀ e, Block.read (config.text .instanceCIDR) = .error e →
        check config state = .error (.config (.format e))) ∧
      ∀ inst, Block.read (config.text .instanceCIDR) = .ok inst →
        (check config state = .ok () ↔ ∀ s ∈ state.subnets, LeavesFree inst s) ∧
        ∀ f, check config state = .error f ↔ ∃ before subnet after,
          state.subnets = before ++ subnet :: after ∧ (∀ s ∈ before, LeavesFree inst s) ∧
            SubnetFault inst subnet f) ∧
    (∀ subnets,
      ((∀ s, s ∈ subnets ↔ s ∈ state.subnets) →
        (check config { state with subnets } = .ok () ↔ check config state = .ok ())) ∧
      (subnets ⊆ state.subnets → check config state = .ok () →
        check config { state with subnets } = .ok ()) ∧
      ∀ f, check config state = .error f →
        check config { state with subnets := state.subnets ++ subnets } = .error f) ∧
    ∀ text inst, Block.read (config.text .instanceCIDR) = .ok inst → Block.read text = .ok inst →
      check (config.setText .instanceCIDR text) state = check config state := by
  refine ⟨⟨eq_of_check_mismatch, check_of_ne⟩, fun heq => ⟨fun e => check_of_malformed heq, ?_⟩,
    fun subnets => ⟨fun hsame => ⟨?_, ?_⟩, check_of_subset, fun f => check_append_of_error⟩,
    fun text inst => check_setText⟩
  · intro inst hinst
    rw [check_of_read heq hinst]
    exact ⟨checkSubnets_eq_ok_iff, fun f => checkSubnets_eq_error_iff⟩
  · exact check_of_subset fun s hs => (hsame s).mpr hs
  · exact check_of_subset fun s hs => (hsame s).mp hs

end NetworkState

end ClusterLaunch
