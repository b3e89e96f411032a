import ClusterLaunch.Proofs.Guard
import ClusterLaunch.Proofs.Preflight.Requests

/-! # What the preflight comes to

The outcome of each check is a function of the configuration and the answers: the log, the clock
and the requests that came before have no part in it.
-/

namespace ClusterLaunch

open Session

def SubnetPage.goesOn (page : SubnetPage) : Bool := (filled page.nextToken).isSome

def RecordPage.goesOn (page : RecordPage) : Bool :=
  page.isTruncated && (filled page.nextName).isSome

namespace NetworkState

def sole (id region : String) : List ReportedVpc → Except Failure ReportedVpc
  | [] => .error (.preflight (.vpcNotFound id region))
  | [vpc] => .ok vpc
  | vpcs => .error (.preflight (.manyVpcs vpcs.length id))

def vpcOfAnswers (id region : String) (a : Answers) : Except Failure ReportedVpc := do
  let absent : Failure := .preflight (.vpcNotFound id region)
  sole id region (← (a.next .describeVpcs).mapError (Failure.reworded absentCodes absent))

def ofAnswers (id region : String) (a : Answers) : Except Failure NetworkState := do
  let vpc ← vpcOfAnswers id region a
  match filled vpc.block with
  | none => .error (.preflight (.vpcWithoutBlock id))
  | some block =>
    let pages ← listing .describeSubnets SubnetPage.goesOn (a .describeSubnets)
    return ⟨id, block, pages.flatMap blocksOf⟩

theorem outcome_describeVpc (id region : String) (w : World) :
    ((describeVpc id region).run w).outcome = vpcOfAnswers id region w.answers := by
  rw [describeVpc, outcome_bind, run_reword, outcome_ask, vpcOfAnswers]
  congr 1
  funext vpcs
  obtain _ | ⟨vpc, _ | ⟨other, others⟩⟩ := vpcs <;> rfl

theorem isSome_nextSubnets (page : SubnetPage) : (nextSubnets page).isSome = page.goesOn :=
  Option.isSome_map

theorem outcome_subnetBlocks (vpc : String) (w : World) :
    ((subnetBlocks vpc).run w).outcome = (do
      let pages ← listing .describeSubnets SubnetPage.goesOn (w.answers .describeSubnets)
      return pages.flatMap blocksOf) := by
  rw [subnetBlocks, outcome_bind,
    outcome_allPages (fetches_fetchSubnets vpc) fun _ => isSome_nextSubnets]
  rfl

theorem outcome_fetch (id region : String) (w : World) :
    ((fetch id region).run w).outcome = ofAnswers id region w.answers := by
  rw [fetch, outcome_bind, outcome_describeVpc, ofAnswers]
  congr 1
  funext vpc
  cases filled vpc.block with
  | none => rfl
  | some block =>
    have hkept : ((describeVpc id region).run w).world.answers .describeSubnets =
        w.answers .describeSubnets :=
      (follows_describeVpc id region).answers_eq (by rintro _ rfl; decide)
    change Run.outcome (Session.run (subnetBlocks _ >>= fun subnets => pure _) _) = _
    rw [outcome_bind, outcome_subnetBlocks, hkept]
    cases listing .describeSubnets SubnetPage.goesOn (w.answers .describeSubnets) <;> rfl

end NetworkState

def networkVerdict (config : Config) (a : Answers) : Except Failure Unit :=
  if config.text .vpcId = "" then .ok ()
  else do
    let state ← NetworkState.ofAnswers (config.text .vpcId) (config.text .region) a
    NetworkState.check config state

theorem outcome_checkVpc (config : Config) (w : World) :
    ((checkVpc config).run w).outcome = networkVerdict config w.answers := by
  unfold checkVpc networkVerdict
  by_cases h : config.text .vpcId = ""
  · simp only [h, if_true]
    rfl
  · simp only [h, if_false]
    rw [outcome_log_bind, outcome_bind, NetworkState.outcome_fetch]
    simp only [run_ofResult]

def keyPairVerdict (config : Config) (a : Answers) : Except Failure Unit := do
  let name := config.text .keyName
  let absent : Failure := .preflight (.keyPairNotFound name (config.text .region))
  let names ← (a.next .describeKeyPairs).mapError (Failure.reworded keyPairAbsentCodes absent)
  if names.contains (some name) then .ok () else .error absent

theorem keyPairVerdict_congr {a b : Answers} (config : Config)
    (h : a .describeKeyPairs = b .describeKeyPairs) :
    keyPairVerdict config a = keyPairVerdict config b := by
  rw [keyPairVerdict, Answers.next_congr h]
  rfl

theorem outcome_checkKeyPair (config : Config) (w : World) :
    ((checkKeyPair config).run w).outcome = keyPairVerdict config w.answers := by
  rw [checkKeyPair, outcome_log_bind, outcome_bind, run_reword, outcome_ask, keyPairVerdict]
  congr 1
  funext names
  by_cases h : some (config.text .keyName) ∈ names
  · rw [if_pos h, if_pos (List.contains_iff_mem.mpr h)]
    rfl
  · rw [if_neg h, if_neg (mt List.contains_iff_mem.mp h)]
    rfl

namespace HostedZone

def ofAnswers (zone : String) (a : Answers) : Except Failure HostedZone := do
  let name := DomainName.canon zone
  match matching name (← a.next .listHostedZones) with
  | [] => .error (.preflight (.zoneNotFound name))
  | id :: _ =>
    let pages ← listing .listRecordSets RecordPage.goesOn (a .listRecordSets)
    return ⟨id, name, pages.flatMap namesOf⟩

theorem outcome_listRecords (id : String) (w : World) :
    ((listRecords id).run w).outcome = (do
      let pages ← listing .listRecordSets RecordPage.goesOn (w.answers .listRecordSets)
      return pages.flatMap namesOf) := by
  have hgoes : ∀ (cursor : Option RecordCursor) (page : RecordPage),
      (nextRecords cursor page).isSome = page.goesOn := by
    intro cursor page
    unfold nextRecords RecordPage.goesOn
    cases page.isTruncated <;> simp
  rw [listRecords, outcome_bind,
    outcome_allPages (fun cursor => fetches_ask (.listRecordSets id cursor)) hgoes]
  rfl

theorem outcome_find (zone : String) (w : World) :
    ((find zone).run w).outcome = ofAnswers zone w.answers := by
  have hkept : ((ask (.listHostedZones (DomainName.canon zone))).run w).world.answers
      .listRecordSets = w.answers .listRecordSets :=
    answers_ask_of_ne (.listHostedZones _) (m := .listRecordSets) nofun w
  have hrest : ∀ (id : String) (v : World), v.answers .listRecordSets = w.answers .listRecordSets →
      Run.outcome (Session.run (do return ⟨id, DomainName.canon zone, ← listRecords id⟩ :
        Session HostedZone) v) = (do
      let pages ← listing .listRecordSets RecordPage.goesOn (w.answers .listRecordSets)
      return ⟨id, DomainName.canon zone, pages.flatMap namesOf⟩) := by
    intro id v hv
    rw [outcome_bind, outcome_listRecords, hv]
    cases listing .listRecordSets RecordPage.goesOn (w.answers .listRecordSets) <;> rfl
  rw [find, outcome_bind, outcome_ask, ofAnswers]
  congr 1
  funext zones
  cases matching (DomainName.canon zone) zones with
  | nil => rfl
  | cons id others =>
    refine Eq.trans ?_ (hrest id _ hkept)
    cases others with
    | nil => rfl
    | cons other others => exact outcome_log_bind ..

end HostedZone

def zoneVerdict (config : Config) (a : Answers) : Except Failure Unit :=
  if config.text .hostedZone = "" then .ok ()
  else do
    let name := config.text .externalDNSName
    let found ← HostedZone.ofAnswers (config.text .hostedZone) a
    if found.hasRecord name then
      .error (.preflight (.recordTaken (DomainName.withDot name) found.name))
    else .ok ()

theorem zoneVerdict_congr {a b : Answers} (config : Config)
    (hzones : a .listHostedZones = b .listHostedZones)
    (hrecords : a .listRecordSets = b .listRecordSets) :
    zoneVerdict config a = zoneVerdict config b := by
  rw [zoneVerdict, HostedZone.ofAnswers, Answers.next_congr hzones, hrecords]
  rfl

theorem outcome_checkHostedZone (config : Config) (w : World) :
    ((checkHostedZone config).run w).outcome = zoneVerdict config w.answers := by
  unfold checkHostedZone zoneVerdict
  by_cases h : config.text .hostedZone = ""
  · simp only [h, if_true]
    rfl
  · simp only [h, if_false]
    rw [outcome_log_bind, outcome_bind, HostedZone.outcome_find]
    congr 1
    funext found
    split <;> rfl

/-- What the answers say about a configuration. The first fault decides. -/
def preflightVerdict (config : Config) (a : Answers) : Except Failure Unit := do
  networkVerdict config a
  keyPairVerdict config a
  zoneVerdict config a

/-- The outcome of the preflight is the verdict on the answers that are there when it starts. -/
theorem outcome_preflight (config : Config) (w : World) :
    ((preflight config).run w).outcome = preflightVerdict config w.answers := by
  -- no check asks a method of another check, so each of them finds its answers untouched
  have hkey := answers_checkVpc config w (m := .describeKeyPairs) nofun nofun
  have hzones := (answers_checkKeyPair config ((checkVpc config).run w).world
    (m := .listHostedZones) nofun).trans (answers_checkVpc config w nofun nofun)
  have hrecords := (answers_checkKeyPair config ((checkVpc config).run w).world
    (m := .listRecordSets) nofun).trans (answers_checkVpc config w nofun nofun)
  rw [preflight, outcome_bind, outcome_checkVpc, preflightVerdict]
  congr 1
  funext _
  rw [outcome_bind, outcome_checkKeyPair,
    keyPairVerdict_congr config hkey]
  congr 1
  funext _
  rw [outcome_bind, outcome_checkHostedZone, zoneVerdict_congr config hzones hrecords]
  cases zoneVerdict config w.answers <;> rfl

end ClusterLaunch
