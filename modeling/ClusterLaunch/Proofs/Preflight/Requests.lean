import ClusterLaunch.Preflight.Basic
import ClusterLaunch.Proofs.Cloud.Pages

/-! # The requests of the preflight

Each check asks along a language that the configuration fixes. None of them asks the service that
holds the stacks.
-/

namespace ClusterLaunch

open Session

/-- A look-up and the pages of what it finds, or nothing for an empty name. -/
def lookupWords (name : String) (lookup pages : Method) : Language Method :=
  if name = "" then 1 else {[lookup]} * repeated pages

def networkWords (config : Config) : Language Method :=
  lookupWords (config.text .vpcId) .describeVpcs .describeSubnets

def zoneWords (config : Config) : Language Method :=
  lookupWords (config.text .hostedZone) .listHostedZones .listRecordSets

def preflightWords (config : Config) : Language Method :=
  networkWords config * {[.describeKeyPairs]} * zoneWords config

theorem eq_of_mem_lookupWords {name : String} {lookup pages m : Method} {word : List Method}
    (hword : word ∈ lookupWords name lookup pages) (hm : m ∈ word) : m = lookup ∨ m = pages := by
  unfold lookupWords at hword
  split at hword
  · rw [(Language.mem_one _).mp hword] at hm
    simp at hm
  · rcases exists_mem_of_mem_mul hword hm with ⟨_, rfl, hm⟩ | ⟨u, hu, hm⟩
    · exact .inl (List.mem_singleton.mp hm)
    · exact .inr (eq_of_mem_repeated hu hm)

theorem service_ne_of_mem_preflightWords {config : Config} {word : List Method} {m : Method}
    (hword : word ∈ preflightWords config) (hm : m ∈ word) : m.service ≠ .cloudformation := by
  rcases exists_mem_of_mem_mul hword hm with ⟨u, hu, hm⟩ | ⟨u, hu, hm⟩
  · rcases exists_mem_of_mem_mul hu hm with ⟨v, hv, hm⟩ | ⟨_, rfl, hm⟩
    · rcases eq_of_mem_lookupWords hv hm with rfl | rfl <;> decide
    · rw [List.mem_singleton.mp hm]
      decide
  · rcases eq_of_mem_lookupWords hu hm with rfl | rfl <;> decide

namespace NetworkState

theorem follows_describeVpc (id region : String) :
    (describeVpc id region).Follows {[.describeVpcs]} := by
  refine ((follows_ask (.describeVpcs id)).reword _ _).bind_silent fun vpcs => ?_
  match vpcs with
  | [] => exact follows_fail _ ⟨[], rfl⟩
  | [vpc] => exact follows_pure vpc
  | _ :: _ :: _ => exact follows_fail _ ⟨[], rfl⟩

theorem fetches_fetchSubnets (vpc : String) (token : Option String) :
    Fetches .describeSubnets (fetchSubnets vpc token) where
  follows := (follows_ask (.describeSubnets vpc token)).bind_silent fun page =>
    (silent_forM (fun _ => silent_log _ _ _) _).follows_bind (follows_pure page)
  outcome w := by
    rw [fetchSubnets, outcome_bind, outcome_ask]
    cases w.answers.next (Request.describeSubnets vpc token).method with
    | error e => rfl
    | ok page =>
      exact (silent_forM (fun _ => silent_log _ _ _) _).outcome_bind _ _

theorem requests_describeVpc (id region : String) (w : World) :
    ((describeVpc id region).run w).requests = [.describeVpcs id] := by
  rw [describeVpc, requests_bind_of_nil, run_reword, run_ask]
  · rfl
  · rintro (_ | ⟨vpc, _ | ⟨other, others⟩⟩) v <;> rfl

theorem requests_fetchSubnets (vpc : String) (token : Option String) (w : World) :
    ((fetchSubnets vpc token).run w).requests = [.describeSubnets vpc token] := by
  rw [fetchSubnets, requests_bind_of_nil, run_ask]
  · rfl
  · intro page v
    exact (silent_forM (fun _ => silent_log _ _ _) _).requests_bind _ v

/-- The subnets are asked for with the tokens that the pages give. -/
theorem requests_subnetBlocks (vpc : String) (w : World) :
    ((subnetBlocks vpc).run w).requests =
      (cursors (fun _ page => nextSubnets page) none (w.answers .describeSubnets)).map
        (.describeSubnets vpc) := by
  rw [subnetBlocks, requests_bind_of_nil fun _ _ => rfl]
  exact requests_allPages (fetches_fetchSubnets vpc) (requests_fetchSubnets vpc) none w

theorem follows_subnetBlocks (vpc : String) :
    (subnetBlocks vpc).Follows (repeated .describeSubnets) :=
  (follows_allPages (fetches_fetchSubnets vpc) none).bind_silent fun pages =>
    follows_pure (pages.flatMap blocksOf)

theorem follows_fetch (id region : String) :
    (fetch id region).Follows ({[.describeVpcs]} * repeated .describeSubnets) := by
  refine (follows_describeVpc id region).bind (fun vpc => ?_) (follows_subnetBlocks id).nonempty
  cases filled vpc.block with
  | none => exact follows_fail _ (follows_subnetBlocks id).nonempty
  | some block => exact (follows_subnetBlocks _).bind_silent fun subnets => follows_pure _

end NetworkState

theorem follows_checkVpc (config : Config) : (checkVpc config).Follows (networkWords config) := by
  unfold checkVpc networkWords lookupWords
  by_cases h : config.text .vpcId = ""
  · simp only [h, if_true]
    exact (silent_log _ _ _).follows
  · simp only [h, if_false]
    exact (silent_log _ _ _).follows_bind
      ((NetworkState.follows_fetch _ _).bind_silent fun state => follows_ofResult _)

theorem answers_checkVpc (config : Config) (w : World) {m : Method} (hm : m ≠ .describeVpcs)
    (hm' : m ≠ .describeSubnets) :
    ((checkVpc config).run w).world.answers m = w.answers m :=
  (follows_checkVpc config).answers_eq fun _ hword h =>
    (eq_of_mem_lookupWords hword h).elim hm hm'

theorem follows_checkKeyPair (config : Config) :
    (checkKeyPair config).Follows {[.describeKeyPairs]} := by
  refine (silent_log _ _ _).follows_bind
    (((follows_ask (.describeKeyPairs _)).reword _ _).bind_silent fun names => ?_)
  split
  · exact follows_pure ()
  · exact follows_fail _ ⟨[], rfl⟩

theorem answers_checkKeyPair (config : Config) (w : World) {m : Method}
    (hm : m ≠ .describeKeyPairs) :
    ((checkKeyPair config).run w).world.answers m = w.answers m :=
  (follows_checkKeyPair config).answers_eq fun _ hword h => hm <| by
    obtain rfl := hword
    exact List.mem_singleton.mp h

namespace HostedZone

theorem follows_listRecords (id : String) :
    (listRecords id).Follows (repeated .listRecordSets) :=
  (follows_allPages (fun cursor => fetches_ask (.listRecordSets id cursor)) none).bind_silent
    fun pages => follows_pure (pages.flatMap namesOf)

/-- The records are asked for with the cursors that the pages give. -/
theorem requests_listRecords (id : String) (w : World) :
    ((listRecords id).run w).requests =
      (cursors nextRecords none (w.answers .listRecordSets)).map (.listRecordSets id) := by
  rw [listRecords, requests_bind_of_nil fun _ _ => rfl]
  exact requests_allPages (fun cursor => fetches_ask (.listRecordSets id cursor))
    (fun _ _ => by rw [run_ask]; rfl) none w

/-- After the look-up of a zone the records of the first one that matches are listed. -/
theorem requests_find_of_matching {zone : String} {w : World} {zones : List ReportedZone}
    {id : String} {others : List String} (hzones : w.answers.next .listHostedZones = .ok zones)
    (hid : matching (DomainName.canon zone) zones = id :: others) :
    ((find zone).run w).requests = .listHostedZones (DomainName.canon zone) ::
      (cursors nextRecords none (w.answers .listRecordSets)).map (.listRecordSets id) := by
  have hlist : ∀ v : World, v.answers .listRecordSets = w.answers .listRecordSets →
      Run.requests (Session.run (do return ⟨id, DomainName.canon zone, ← listRecords id⟩ :
        Session HostedZone) v) =
      (cursors nextRecords none (w.answers .listRecordSets)).map (.listRecordSets id) := by
    intro v hv
    rw [requests_bind_of_nil fun _ _ => rfl, requests_listRecords, hv]
  have hkept : ((ask (.listHostedZones (DomainName.canon zone))).run w).world.answers
      .listRecordSets = w.answers .listRecordSets :=
    answers_ask_of_ne (.listHostedZones _) (m := .listRecordSets) nofun w
  have hask : ((ask (.listHostedZones (DomainName.canon zone))).run w).outcome = .ok zones := by
    rw [outcome_ask, hzones]
  have hrequest : ((ask (.listHostedZones (DomainName.canon zone))).run w).requests =
      [.listHostedZones (DomainName.canon zone)] := by
    rw [run_ask]
    rfl
  rw [find, requests_bind_ok hask, hrequest, hid]
  apply congrArg (Request.listHostedZones (DomainName.canon zone) :: ·)
  cases others with
  | nil => exact hlist _ hkept
  | cons other others => exact ((silent_log _ _ _).requests_bind _ _).trans (hlist _ hkept)

/-- Without a zone that matches no records are listed. -/
theorem requests_find_of_nil {zone : String} {w : World} {zones : List ReportedZone}
    (hzones : w.answers.next .listHostedZones = .ok zones)
    (hnone : matching (DomainName.canon zone) zones = []) :
    ((find zone).run w).requests = [.listHostedZones (DomainName.canon zone)] := by
  have hask : ((ask (.listHostedZones (DomainName.canon zone))).run w).outcome = .ok zones := by
    rw [outcome_ask, hzones]
  rw [find, requests_bind_ok hask, hnone, run_ask]
  rfl

theorem follows_find (zone : String) :
    (find zone).Follows ({[.listHostedZones]} * repeated .listRecordSets) := by
  refine (follows_ask (.listHostedZones _)).bind (fun zones => ?_)
    (follows_listRecords zone).nonempty
  split
  · exact follows_fail _ (follows_listRecords zone).nonempty
  · rename_i id others _
    have hrest : (do return ⟨id, DomainName.canon zone, ← listRecords id⟩ :
        Session HostedZone).Follows (repeated .listRecordSets) :=
      (follows_listRecords id).bind_silent fun records => follows_pure _
    change Session.Follows (if _ then _ else _) _
    split
    · exact (silent_log _ _ _).follows_bind hrest
    · exact hrest

end HostedZone

theorem follows_checkHostedZone (config : Config) :
    (checkHostedZone config).Follows (zoneWords config) := by
  unfold checkHostedZone zoneWords lookupWords
  by_cases h : config.text .hostedZone = ""
  · simp only [h, if_true]
    exact (silent_log _ _ _).follows
  · simp only [h, if_false]
    refine (silent_log _ _ _).follows_bind
      ((HostedZone.follows_find _).bind_silent fun zone => ?_)
    split
    · exact follows_fail _ ⟨[], rfl⟩
    · exact follows_pure ()

theorem follows_preflight (config : Config) :
    (preflight config).Follows (preflightWords config) := by
  have hzone : (do
      checkHostedZone config
      log .info .preflight ("Preflight checks passed for cluster " ++ config.text .clusterName) :
        Session Unit).Follows (zoneWords config) :=
    (follows_checkHostedZone config).bind_silent fun _ => (silent_log _ _ _).follows
  have hkey := (follows_checkKeyPair config).bind (fun _ => hzone) hzone.nonempty
  rw [preflightWords, mul_assoc]
  exact (follows_checkVpc config).bind (fun _ => hkey) hkey.nonempty

end ClusterLaunch
