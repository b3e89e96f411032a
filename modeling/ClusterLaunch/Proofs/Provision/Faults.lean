import ClusterLaunch.Proofs.Cloud.Faults
import ClusterLaunch.Proofs.Preflight.Inquiry
import ClusterLaunch.Proofs.Preflight.Placement
import ClusterLaunch.Proofs.Provision.Calls

/-! # Failures of a provisioning run

A request that fails ends the run at once, with its own failure. Only a network and a key pair that
a service does not know are worded as faults of the live state.
-/

namespace ClusterLaunch

open Session

/-- The fault that a failure of a method stands for, if it stands for one. -/
def absence? (config : Config) : Method → Failure → Option PreflightError
  | .describeVpcs, .rejected r =>
    if r.code = .given "InvalidVpcID.NotFound" ∨ r.code = .given "InvalidVpcID.Malformed" then
      some (.vpcNotFound (config.text .vpcId) (config.text .region))
    else none
  | .describeKeyPairs, .rejected r =>
    if r.code = .given "InvalidKeyPair.NotFound" then
      some (.keyPairNotFound (config.text .keyName) (config.text .region))
    else none
  | _, _ => none

theorem hasCode_iff {r : Rejection} {codes : List String} :
    r.hasCode codes = true ↔ ∃ code ∈ codes, r.code = .given code := by
  unfold Rejection.hasCode
  cases r.code with
  | missing => simp
  | null => simp
  | given code => simp

theorem wording_eq (config : Config) (m : Method) (e : Failure) :
    wording config m e = (absence? config m e).elim e .preflight := by
  cases m with
  | describeVpcs =>
    cases e with
    | rejected r =>
      have hcodes : r.hasCode NetworkState.absentCodes = true ↔
          r.code = .given "InvalidVpcID.NotFound" ∨ r.code = .given "InvalidVpcID.Malformed" := by
        simp [hasCode_iff, NetworkState.absentCodes]
      simp only [wording, Failure.reworded, absence?, hcodes]
      split <;> rfl
    | _ => rfl
  | describeKeyPairs =>
    cases e with
    | rejected r =>
      have hcodes : r.hasCode keyPairAbsentCodes = true ↔
          r.code = .given "InvalidKeyPair.NotFound" := by
        simp [hasCode_iff, keyPairAbsentCodes]
      simp only [wording, Failure.reworded, absence?, hcodes]
      split <;> rfl
    | _ => rfl
  | _ => rfl

variable (config : Config)

theorem inquiry_describe (handle : String) :
    Inquiry lookupsᶜ (wording config) (StackStatus.describe handle) := by
  apply Inquiry.bind (.ask (.describeStacks handle) (fun h => h rfl) rfl)
  intro reports
  cases reports with
  | nil => exact .fail _
  | cons report others => exact .pure _

/-- Each round of a wait inquires once, looks at the clock and sleeps. -/
theorem course_pollStack (handle : String) (interval limit start : Float) (more : ℕ) :
    Course lookupsᶜ (wording config) (pollStack handle interval limit start more) := by
  induction more with
  | zero => exact .inquiry (inquiry_describe config handle)
  | succ more ih =>
    apply Course.bind (.inquiry (inquiry_describe config handle))
    intro status
    split
    · exact .inquiry (.pure status)
    apply Course.bind (.inquiry (.log _ _ _))
    intro _
    apply Course.bind .now
    intro time
    split
    · exact .inquiry (.fail _)
    exact .bind (.sleep interval) fun _ => ih

theorem course_waitForStack (handle : String) (interval limit : Float) :
    Course lookupsᶜ (wording config) (waitForStack handle interval limit) := by
  apply Course.bind .now
  intro start
  apply Course.bind (.inquiry (.remaining fun h => h rfl))
  exact course_pollStack config handle interval limit start

theorem inquiry_describeFailure (handle : String) :
    Inquiry lookupsᶜ (wording config) (describeFailure handle) := by
  have hm : Method.describeStackEvents ∈ lookupsᶜ := fun h => h rfl
  apply Inquiry.bind
  · exact .bind (inquiry_allPages hm (fun token => .ask (.describeStackEvents handle token) hm rfl)
      none) fun pages => .pure _
  · intro events
    exact .bind (.log _ _ _) fun _ => .pure _

theorem inquiry_createStack (template : String) :
    Inquiry lookupsᶜ (wording config) (createStack config template) :=
  .bind (.log _ _ _) fun _ => .bind (.ask (.createStack _) (fun h => h rfl) rfl) fun _ => .pure _

theorem course_reportCauses (status : StackStatus) (messages : List String) :
    Course lookupsᶜ (wording config) (reportCauses status messages) := by
  apply Course.bind (.complain _)
  intro _
  split
  · exact .bind (.complain _) fun _ => course_forM .complain messages
  · exact .inquiry (.pure ())

theorem course_launch (plan : ProvisionPlan) :
    Course lookupsᶜ (wording config) (launch config plan) := by
  apply Course.bind (.print _)
  intro _
  apply Course.bind (.inquiry (inquiry_createStack config plan.template))
  intro id
  apply Course.bind (.print _)
  intro _
  apply Course.bind (.print _)
  intro _
  apply Course.bind (course_waitForStack config id _ _)
  intro status
  split
  · exact .bind (.print _) fun _ => .inquiry (.pure _)
  · exact .bind (.inquiry (inquiry_describeFailure config id)) fun messages =>
      .bind (course_reportCauses config status messages) fun _ => .inquiry (.pure _)

theorem failsFast_provision (plan : ProvisionPlan) :
    FailsFast (wording config) (provision config plan) := by
  rw [provision_eq]
  apply (silent_announce config plan).failsFast.bind
  intro _
  apply (silent_print _).failsFast.bind
  intro _
  apply (inquiry_preflight config).failsFast.bind
  intro _
  apply (silent_print _).failsFast.bind
  intro _
  split
  · exact (silent_print _).failsFast.bind fun _ => failsFast_pure _
  · exact (course_launch config plan).failsFast

variable {config}

/-- A request that fails is the last event of a run, and the run comes to its failure: to the very
failure, unless it is a rejection of one of the codes by which the service says that it does not
know the network or the key pair. -/
theorem provision_fails_fast {plan : ProvisionPlan} {w : World} {before after : List Event}
    {r : Request} {e : Failure}
    (h : ((provision config plan).run w).events = before ++ .requested r :: after)
    (he : w.replyAfter before r.method = .error e) :
    after = [] ∧ ((provision config plan).run w).outcome =
      .error ((absence? config r.method e).elim e .preflight) := by
  rw [← wording_eq]
  exact (failsFast_provision config plan).stops h he

/-- A rejection of a submission, with the code of a network that is not there. -/
def Rejection.misplaced : Rejection where
  operation := "CreateStack"
  code := .given "InvalidVpcID.NotFound"

/-- A network with room and a key pair, and a service that turns the stack down. -/
def World.unwilling : World where
  answers
    | .describeVpcs => World.roomy.answers .describeVpcs
    | .describeSubnets => World.roomy.answers .describeSubnets
    | .describeKeyPairs => [⟨0.0, .ok [some "ops"]⟩]
    | .createStack => [⟨0.5, .error (.rejected .misplaced)⟩]
    | _ => []

theorem provision_fails_fast_unwilling :
    ∃ before, ((provision .inPlace ⟨"{}", false, 3.0, 60.0⟩).run .unwilling).events =
        before ++ [.requested (.createStack (.ofConfig .inPlace "{}"))] ∧
      ((provision .inPlace ⟨"{}", false, 3.0, 60.0⟩).run .unwilling).outcome =
        .error (.rejected .misplaced) := by
  have h : ((provision .inPlace ⟨"{}", false, 3.0, 60.0⟩).run .unwilling).events =
      ((provision .inPlace ⟨"{}", false, 3.0, 60.0⟩).run .unwilling).events.dropLast ++
        .requested (.createStack (.ofConfig .inPlace "{}")) :: [] := rfl
  exact ⟨_, h, (provision_fails_fast h rfl).2⟩

end ClusterLaunch
