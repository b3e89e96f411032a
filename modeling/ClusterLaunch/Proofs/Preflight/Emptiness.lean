import ClusterLaunch.Proofs.Cloud.Tidy
import ClusterLaunch.Proofs.Preflight.Verdict

/-! # Empty fields in the preflight

No verdict of the preflight tells the ways apart in which a field of a reply can be empty.
-/

namespace ClusterLaunch

open Session

namespace NetworkState

theorem vpcOfAnswers_tidied (id region : String) (a : Answers) :
    vpcOfAnswers id region a.tidied =
      (vpcOfAnswers id region a).map fun vpc => ⟨filled vpc.id, filled vpc.block⟩ := by
  rw [vpcOfAnswers, Answers.next_tidied, vpcOfAnswers]
  cases a.next .describeVpcs with
  | error e => rfl
  | ok vpcs =>
    obtain _ | ⟨vpc, _ | ⟨_, _⟩⟩ := vpcs
    · rfl
    · rfl
    · change Except.error _ = Except.error _
      simp

theorem blocksOf_tidy (page : SubnetPage) :
    blocksOf (Method.tidy .describeSubnets page) = blocksOf page := by
  simp only [blocksOf, Method.tidy, List.filterMap_map, Function.comp_def, filled_filled]

theorem goesOn_tidy (page : SubnetPage) :
    SubnetPage.goesOn (Method.tidy .describeSubnets page) = page.goesOn := by
  simp only [SubnetPage.goesOn, Method.tidy, filled_filled]

theorem ofAnswers_tidied (id region : String) (a : Answers) :
    ofAnswers id region a.tidied = ofAnswers id region a := by
  rw [ofAnswers, vpcOfAnswers_tidied, listing_tidied goesOn_tidy, ofAnswers]
  cases vpcOfAnswers id region a with
  | error e => rfl
  | ok vpc =>
    rw [map_ok, ok_bind, ok_bind]
    dsimp only
    rw [filled_filled]
    cases filled vpc.block with
    | none => rfl
    | some block =>
      cases listing .describeSubnets SubnetPage.goesOn (a .describeSubnets) with
      | error e => rfl
      | ok pages =>
        change Except.ok _ = Except.ok _
        simp only [List.flatMap_map, blocksOf_tidy]

end NetworkState

theorem networkVerdict_tidied (config : Config) (a : Answers) :
    networkVerdict config a.tidied = networkVerdict config a := by
  rw [networkVerdict, NetworkState.ofAnswers_tidied]
  rfl

theorem keyPairVerdict_tidied (config : Config) (a : Answers) :
    keyPairVerdict config a.tidied = keyPairVerdict config a := by
  rw [keyPairVerdict, Answers.next_tidied, keyPairVerdict]
  cases a.next .describeKeyPairs <;> rfl

namespace HostedZone

theorem matching_tidy (name : String) (zones : List ReportedZone) :
    matching name (Method.tidy .listHostedZones zones) = matching name zones := by
  simp only [matching, Method.tidy, List.filterMap_map, Function.comp_def, filled_filled,
    filled_getD]

theorem namesOf_tidy (page : RecordPage) :
    namesOf (Method.tidy .listRecordSets page) = namesOf page := by
  simp only [namesOf, Method.tidy, List.filterMap_map, Function.comp_def, filled_filled]

theorem goesOn_tidy (page : RecordPage) :
    RecordPage.goesOn (Method.tidy .listRecordSets page) = page.goesOn := by
  simp only [RecordPage.goesOn, Method.tidy, filled_filled]

theorem ofAnswers_tidied (zone : String) (a : Answers) :
    ofAnswers zone a.tidied = ofAnswers zone a := by
  rw [ofAnswers, Answers.next_tidied, listing_tidied goesOn_tidy, ofAnswers]
  cases a.next .listHostedZones with
  | error e => rfl
  | ok zones =>
    rw [map_ok, ok_bind, ok_bind, matching_tidy]
    cases matching (DomainName.canon zone) zones with
    | nil => rfl
    | cons id others =>
      cases listing .listRecordSets RecordPage.goesOn (a .listRecordSets) with
      | error e => rfl
      | ok pages =>
        change Except.ok _ = Except.ok _
        simp only [List.flatMap_map, namesOf_tidy]

end HostedZone

theorem zoneVerdict_tidied (config : Config) (a : Answers) :
    zoneVerdict config a.tidied = zoneVerdict config a := by
  rw [zoneVerdict, HostedZone.ofAnswers_tidied]
  rfl

theorem preflightVerdict_tidied (config : Config) (a : Answers) :
    preflightVerdict config a.tidied = preflightVerdict config a := by
  rw [preflightVerdict, networkVerdict_tidied, keyPairVerdict_tidied, zoneVerdict_tidied]
  rfl

end ClusterLaunch
