import ClusterLaunch.Preflight.Basic
import ClusterLaunch.Proofs.Cloud.Inquiry

/-! # The preflight as an inquiry

The checks only ask the services that know the live state. A network or a key pair that a service
does not know is worded as a fault of the live state, and no other failure is.
-/

namespace ClusterLaunch

open Session

def lookups : Set Method := {m | m.service ≠ .cloudformation}

theorem mem_lookups {m : Method} (h : m.service = .ec2 ∨ m.service = .route53) : m ∈ lookups := by
  intro hm
  rw [hm] at h
  rcases h with h | h <;> cases h

/-- How a run words the failures of a method. -/
def wording (config : Config) : Method → Failure → Failure
  | .describeVpcs => Failure.reworded NetworkState.absentCodes
      (.preflight (.vpcNotFound (config.text .vpcId) (config.text .region)))
  | .describeKeyPairs => Failure.reworded keyPairAbsentCodes
      (.preflight (.keyPairNotFound (config.text .keyName) (config.text .region)))
  | _ => id

variable (config : Config)

theorem inquiry_describeVpc :
    Inquiry lookups (wording config)
      (NetworkState.describeVpc (config.text .vpcId) (config.text .region)) := by
  apply Inquiry.bind (.reword (.describeVpcs _) (mem_lookups (.inl rfl)) rfl)
  intro vpcs
  match vpcs with
  | [] | _ :: _ :: _ => exact .fail _
  | [vpc] => exact .pure vpc

theorem inquiry_subnetBlocks (vpc : String) :
    Inquiry lookups (wording config) (NetworkState.subnetBlocks vpc) := by
  have hfetch : ∀ token,
      Inquiry lookups (wording config) (NetworkState.fetchSubnets vpc token) := by
    intro token
    apply Inquiry.bind (.ask (.describeSubnets vpc token) (mem_lookups (.inl rfl)) rfl)
    intro page
    exact .bind (inquiry_forM (fun _ => .log _ _ _) _) fun _ => .pure page
  exact .bind (inquiry_allPages (mem_lookups (.inl rfl)) hfetch none) fun pages => .pure _

theorem inquiry_checkVpc : Inquiry lookups (wording config) (checkVpc config) := by
  unfold checkVpc
  by_cases h : config.text .vpcId = ""
  · simp only [h, if_true]
    exact .log _ _ _
  simp only [h, if_false]
  apply Inquiry.bind (.log _ _ _)
  intro _
  refine .bind (.bind (inquiry_describeVpc config) fun vpc => ?_) fun state => inquiry_ofResult _
  cases filled vpc.block with
  | none => exact .fail _
  | some block => exact .bind (inquiry_subnetBlocks config _) fun subnets => .pure _

theorem inquiry_checkKeyPair : Inquiry lookups (wording config) (checkKeyPair config) := by
  apply Inquiry.bind (.log _ _ _)
  intro _
  apply Inquiry.bind (.reword (.describeKeyPairs _) (mem_lookups (.inl rfl)) rfl)
  intro names
  split
  · exact .pure ()
  · exact .fail _

theorem inquiry_listRecords (id : String) :
    Inquiry lookups (wording config) (HostedZone.listRecords id) :=
  have hm : Method.listRecordSets ∈ lookups := mem_lookups (.inr rfl)
  .bind (inquiry_allPages hm (fun cursor => .ask (.listRecordSets id cursor) hm rfl) none)
    fun _ => .pure _

theorem inquiry_find (zone : String) : Inquiry lookups (wording config) (HostedZone.find zone) := by
  apply Inquiry.bind (.ask (.listHostedZones _) (mem_lookups (.inr rfl)) rfl)
  intro zones
  split
  · exact .fail _
  rename_i id others _
  have hrest : Inquiry lookups (wording config) (do
      return ⟨id, DomainName.canon zone, ← HostedZone.listRecords id⟩ : Session HostedZone) :=
    .bind (inquiry_listRecords config id) fun records => .pure _
  cases others with
  | nil => exact hrest
  | cons other others => exact .bind (.log _ _ _) fun _ => hrest

theorem inquiry_checkHostedZone : Inquiry lookups (wording config) (checkHostedZone config) := by
  unfold checkHostedZone
  by_cases h : config.text .hostedZone = ""
  · simp only [h, if_true]
    exact .log _ _ _
  simp only [h, if_false]
  apply Inquiry.bind (.log _ _ _)
  intro _
  apply Inquiry.bind (inquiry_find config _)
  intro found
  split
  · exact .fail _
  · exact .pure ()

theorem inquiry_preflight : Inquiry lookups (wording config) (preflight config) :=
  .bind (inquiry_checkVpc config) fun _ =>
    .bind (inquiry_checkKeyPair config) fun _ =>
      .bind (inquiry_checkHostedZone config) fun _ => .log _ _ _

end ClusterLaunch
