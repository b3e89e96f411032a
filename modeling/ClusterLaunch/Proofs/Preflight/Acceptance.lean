import ClusterLaunch.Proofs.Network.Membership
import ClusterLaunch.Proofs.Preflight.Emptiness

/-! # What the preflight accepts

The preflight passes exactly when the answers describe the declared network with room for the
instances, the key pair, and a zone in which the name of the cluster is free. Empty fields of the
replies count as absent.
-/

namespace ClusterLaunch

open Network Session

/-- The answers report the declared network, and its subnets leave the block of the instances
free. -/
def NetworkFits (config : Config) (a : Answers) : Prop :=
  ∃ vpc inst pages,
    a.next .describeVpcs = .ok [vpc] ∧ vpc.block = some (config.text .vpcCIDR) ∧
    config.text .vpcCIDR ≠ "" ∧ Block.read (config.text .instanceCIDR) = .ok inst ∧
    listing .describeSubnets SubnetPage.goesOn (a .describeSubnets) = .ok pages ∧
    ∀ page ∈ pages, ∀ subnet ∈ page.subnets, ∀ text, subnet.block = some text → text ≠ "" →
      ∃ block, Block.read text = .ok block ∧ ∀ x ∈ inst, x ∉ block

def KeyPairListed (config : Config) (a : Answers) : Prop :=
  ∃ names, a.next .describeKeyPairs = .ok names ∧ some (config.text .keyName) ∈ names

/-- The identifier of the first listed zone that has one and goes by a name. -/
def firstZone (name : String) (zones : List ReportedZone) : Option String :=
  zones.findSome? fun z =>
    if DomainName.canon (z.name.getD "") = DomainName.canon name then filled z.id else none

/-- The answers report a zone of the declared name, and no record of it has the name of the
cluster. -/
def ZoneFits (config : Config) (a : Answers) : Prop :=
  ∃ zones id pages,
    a.next .listHostedZones = .ok zones ∧ firstZone (config.text .hostedZone) zones = some id ∧
    listing .listRecordSets RecordPage.goesOn (a .listRecordSets) = .ok pages ∧
    ∀ page ∈ pages, ∀ name, some name ∈ page.names → name ≠ "" →
      DomainName.canon name ≠ DomainName.canon (config.text .externalDNSName)

namespace NetworkState

theorem checkSubnets_eq_ok_iff {inst : Block} {subnets : List String} :
    checkSubnets inst subnets = .ok () ↔
      ∀ text ∈ subnets, ∃ block, Block.read text = .ok block ∧ ∀ x ∈ inst, x ∉ block := by
  induction subnets with
  | nil => simp [checkSubnets]
  | cons text rest ih =>
    rw [checkSubnets, List.forall_mem_cons, ← ih]
    cases Block.read text with
    | error e => simp
    | ok block => simp [guard_eq_ok_iff, Block.overlaps_eq_false_iff]

theorem mem_blocksOf {text : String} {page : SubnetPage} :
    text ∈ blocksOf page ↔ ∃ subnet ∈ page.subnets, subnet.block = some text ∧ text ≠ "" := by
  simp only [blocksOf, List.mem_filterMap, filled_eq_some_iff]

theorem forall_mem_blocks {pages : List SubnetPage} {P : String → Prop} :
    (∀ text ∈ pages.flatMap blocksOf, P text) ↔
      ∀ page ∈ pages, ∀ subnet ∈ page.subnets, ∀ text, subnet.block = some text → text ≠ "" →
        P text := by
  simp only [List.mem_flatMap, mem_blocksOf]
  constructor
  · intro h page hpage subnet hsubnet text htext hne
    exact h text ⟨page, hpage, subnet, hsubnet, htext, hne⟩
  · rintro h text ⟨page, hpage, subnet, hsubnet, htext, hne⟩
    exact h page hpage subnet hsubnet text htext hne

theorem check_eq_ok_iff {config : Config} {state : NetworkState} :
    check config state = .ok () ↔ config.text .vpcCIDR = state.block ∧
      ∃ inst, Block.read (config.text .instanceCIDR) = .ok inst ∧
        checkSubnets inst state.subnets = .ok () := by
  simp only [check, throw_eq_error, error_bind, guard_eq_ok_iff, bind_eq_ok_iff,
    mapError_eq_ok_iff, Config.block, ne_eq, not_not]

theorem vpcOfAnswers_eq_ok_iff {id region : String} {a : Answers} {vpc : ReportedVpc} :
    vpcOfAnswers id region a = .ok vpc ↔ a.next .describeVpcs = .ok [vpc] := by
  rw [vpcOfAnswers, bind_eq_ok_iff]
  simp only [mapError_eq_ok_iff]
  constructor
  · rintro ⟨vpcs, hvpcs, hsole⟩
    obtain _ | ⟨vpc', _ | ⟨_, _⟩⟩ := vpcs
    · cases hsole
    · cases hsole
      exact hvpcs
    · cases hsole
  · intro h
    exact ⟨[vpc], h, rfl⟩

theorem ofAnswers_eq_ok_iff {id region : String} {a : Answers} {state : NetworkState} :
    ofAnswers id region a = .ok state ↔ ∃ vpc block pages,
      a.next .describeVpcs = .ok [vpc] ∧ filled vpc.block = some block ∧
      listing .describeSubnets SubnetPage.goesOn (a .describeSubnets) = .ok pages ∧
      state = ⟨id, block, pages.flatMap blocksOf⟩ := by
  rw [ofAnswers, bind_eq_ok_iff]
  simp only [vpcOfAnswers_eq_ok_iff]
  refine exists_congr fun vpc => ?_
  cases filled vpc.block with
  | none => simp
  | some block =>
    simp only [bind_eq_ok_iff]
    constructor
    · rintro ⟨hvpc, pages, hpages, hstate⟩
      cases hstate
      exact ⟨block, pages, hvpc, rfl, hpages, rfl⟩
    · rintro ⟨_, pages, hvpc, hblock, hpages, rfl⟩
      cases hblock
      exact ⟨hvpc, pages, hpages, rfl⟩

end NetworkState

theorem networkVerdict_eq_ok_iff {config : Config} {a : Answers} :
    networkVerdict config a = .ok () ↔ config.text .vpcId = "" ∨ NetworkFits config a := by
  unfold networkVerdict
  by_cases hid : config.text .vpcId = ""
  · simp [hid]
  rw [if_neg hid, bind_eq_ok_iff, or_iff_right hid]
  simp only [NetworkState.ofAnswers_eq_ok_iff, NetworkState.check_eq_ok_iff,
    NetworkState.checkSubnets_eq_ok_iff]
  constructor
  · rintro ⟨_, ⟨vpc, block, pages, hvpc, hblock, hpages, rfl⟩, hcidr, inst, hinst, hfree⟩
    obtain ⟨hblock, hne⟩ := filled_eq_some_iff.mp hblock
    exact ⟨vpc, inst, pages, hvpc, hcidr ▸ hblock, hcidr ▸ hne, hinst, hpages,
      NetworkState.forall_mem_blocks.mp hfree⟩
  · rintro ⟨vpc, inst, pages, hvpc, hblock, hne, hinst, hpages, hfree⟩
    exact ⟨_, ⟨vpc, _, pages, hvpc, filled_eq_some_iff.mpr ⟨hblock, hne⟩, hpages, rfl⟩, rfl,
      inst, hinst, NetworkState.forall_mem_blocks.mpr hfree⟩

theorem keyPairVerdict_eq_ok_iff {config : Config} {a : Answers} :
    keyPairVerdict config a = .ok () ↔ KeyPairListed config a := by
  rw [keyPairVerdict, bind_eq_ok_iff]
  simp only [mapError_eq_ok_iff]
  refine exists_congr fun names => and_congr_right fun _ => ?_
  by_cases h : names.contains (some (config.text .keyName)) = true
  · exact iff_of_true (if_pos h) (List.contains_iff_mem.mp h)
  · rw [if_neg h]
    exact iff_of_false (fun h => by cases h) (mt List.contains_iff_mem.mpr h)

namespace HostedZone

theorem head?_matching (name : String) (zones : List ReportedZone) :
    (matching (DomainName.canon name) zones).head? = firstZone name zones :=
  List.head?_filterMap

theorem mem_namesOf {name : String} {page : RecordPage} :
    name ∈ namesOf page ↔ ∃ n, some n ∈ page.names ∧ n ≠ "" ∧ DomainName.canon n = name := by
  simp only [namesOf, List.mem_map, List.mem_filterMap, filled_eq_some_iff]
  constructor
  · rintro ⟨n, ⟨_, hmem, rfl, hne⟩, rfl⟩
    exact ⟨n, hmem, hne, rfl⟩
  · rintro ⟨n, hmem, hne, rfl⟩
    exact ⟨n, ⟨_, hmem, rfl, hne⟩, rfl⟩

theorem ofAnswers_eq_ok_iff {zone : String} {a : Answers} {found : HostedZone} :
    ofAnswers zone a = .ok found ↔ ∃ zones id pages,
      a.next .listHostedZones = .ok zones ∧ firstZone zone zones = some id ∧
      listing .listRecordSets RecordPage.goesOn (a .listRecordSets) = .ok pages ∧
      found = ⟨id, DomainName.canon zone, pages.flatMap namesOf⟩ := by
  rw [ofAnswers, bind_eq_ok_iff]
  refine exists_congr fun zones => ?_
  rw [← head?_matching]
  cases matching (DomainName.canon zone) zones with
  | nil => simp
  | cons id others =>
    simp only [bind_eq_ok_iff]
    constructor
    · rintro ⟨hzones, pages, hpages, hfound⟩
      cases hfound
      exact ⟨id, pages, hzones, rfl, hpages, rfl⟩
    · rintro ⟨_, pages, hzones, hid, hpages, rfl⟩
      cases hid
      exact ⟨hzones, pages, hpages, rfl⟩

end HostedZone

theorem zoneVerdict_eq_ok_iff {config : Config} {a : Answers} :
    zoneVerdict config a = .ok () ↔ config.text .hostedZone = "" ∨ ZoneFits config a := by
  unfold zoneVerdict
  by_cases hzone : config.text .hostedZone = ""
  · simp [hzone]
  rw [if_neg hzone, bind_eq_ok_iff, or_iff_right hzone]
  simp only [HostedZone.ofAnswers_eq_ok_iff, guard_eq_ok_iff, and_true]
  have hfree : ∀ (id name : String) (pages : List RecordPage),
      ¬ HostedZone.hasRecord ⟨id, name, pages.flatMap HostedZone.namesOf⟩
          (config.text .externalDNSName) = true ↔
        ∀ page ∈ pages, ∀ name, some name ∈ page.names → name ≠ "" →
          DomainName.canon name ≠ DomainName.canon (config.text .externalDNSName) := by
    intro id name pages
    rw [HostedZone.hasRecord, List.contains_iff_mem, List.mem_flatMap]
    simp only [HostedZone.mem_namesOf]
    exact ⟨fun h page hpage n hn hne heq => h ⟨page, hpage, n, hn, hne, heq⟩,
      fun h ⟨page, hpage, n, hn, hne, heq⟩ => h page hpage n hn hne heq⟩
  constructor
  · rintro ⟨_, ⟨zones, id, pages, hzones, hid, hpages, rfl⟩, hrecord⟩
    exact ⟨zones, id, pages, hzones, hid, hpages, (hfree ..).mp hrecord⟩
  · rintro ⟨zones, id, pages, hzones, hid, hpages, hrecord⟩
    exact ⟨_, ⟨zones, id, pages, hzones, hid, hpages, rfl⟩, (hfree ..).mpr hrecord⟩

theorem preflightVerdict_eq_ok_iff {config : Config} {a : Answers} :
    preflightVerdict config a = .ok () ↔ (config.text .vpcId = "" ∨ NetworkFits config a) ∧
      KeyPairListed config a ∧ (config.text .hostedZone = "" ∨ ZoneFits config a) := by
  rw [preflightVerdict, bind_eq_ok_iff]
  constructor
  · rintro ⟨_, hnetwork, hrest⟩
    obtain ⟨_, hkey, hzone⟩ := bind_eq_ok_iff.mp hrest
    exact ⟨networkVerdict_eq_ok_iff.mp hnetwork, keyPairVerdict_eq_ok_iff.mp hkey,
      zoneVerdict_eq_ok_iff.mp hzone⟩
  · rintro ⟨hnetwork, hkey, hzone⟩
    exact ⟨(), networkVerdict_eq_ok_iff.mpr hnetwork, bind_eq_ok_iff.mpr
      ⟨(), keyPairVerdict_eq_ok_iff.mpr hkey, zoneVerdict_eq_ok_iff.mpr hzone⟩⟩

/-- The records that are listed are those of the first zone of the name. -/
theorem HostedZone.firstZone_of_mem_requests {zone id : String} {cursor : Option RecordCursor}
    {w : World} (h : .listRecordSets id cursor ∈ ((find zone).run w).requests) :
    ∃ zones, w.answers.next .listHostedZones = .ok zones ∧ firstZone zone zones = some id := by
  cases hzones : w.answers.next .listHostedZones with
  | error e =>
    rw [find, requests_bind_error ((outcome_ask (.listHostedZones _) w).trans hzones), run_ask] at h
    cases List.mem_singleton.mp h
  | ok zones =>
    refine ⟨zones, rfl, ?_⟩
    rw [← head?_matching]
    cases hm : matching (DomainName.canon zone) zones with
    | nil =>
      rw [requests_find_of_nil hzones hm] at h
      cases List.mem_singleton.mp h
    | cons id' others =>
      rw [requests_find_of_matching hzones hm] at h
      rcases List.mem_cons.mp h with h | h
      · cases h
      · obtain ⟨_, -, h⟩ := List.mem_map.mp h
        cases h
        rfl

theorem firstZone_of_mem_requests_check {config : Config} {id : String}
    {cursor : Option RecordCursor} {w : World}
    (h : .listRecordSets id cursor ∈ ((checkHostedZone config).run w).requests) :
    ∃ zones, w.answers.next .listHostedZones = .ok zones ∧
      firstZone (config.text .hostedZone) zones = some id := by
  rw [checkHostedZone] at h
  dsimp only at h
  split at h
  · cases h
  rcases mem_requests_bind h with h | ⟨_, -, h⟩
  · cases h
  rcases mem_requests_bind h with h | ⟨found, -, h⟩
  · exact HostedZone.firstZone_of_mem_requests h
  · split at h <;> cases h

theorem firstZone_of_mem_requests {config : Config} {id : String} {cursor : Option RecordCursor}
    {w : World} (h : .listRecordSets id cursor ∈ ((preflight config).run w).requests) :
    ∃ zones, w.answers.next .listHostedZones = .ok zones ∧
      firstZone (config.text .hostedZone) zones = some id := by
  rcases mem_requests_bind h with h | ⟨_, -, h⟩
  · obtain ⟨_, hword, hm⟩ := (follows_checkVpc config).exists_mem_of_request h
    rcases eq_of_mem_lookupWords hword hm with hm | hm <;> cases hm
  rcases mem_requests_bind h with h | ⟨_, -, h⟩
  · obtain ⟨_, rfl, hm⟩ := (follows_checkKeyPair config).exists_mem_of_request h
    cases List.mem_singleton.mp hm
  rcases mem_requests_bind h with h | ⟨_, -, h⟩
  · -- the answer on zones is still the first, because no check before asks for zones
    have hkept := (answers_checkKeyPair config ((checkVpc config).run w).world
      (m := .listHostedZones) nofun).trans (answers_checkVpc config w nofun nofun)
    rw [← Answers.next_congr hkept]
    exact firstZone_of_mem_requests_check h
  · cases h

/-- The preflight passes exactly if the answers fit: the network unless a new one is made, the key
pair, and the zone unless there is none. A call that fails satisfies none of the conditions. The
records are those of the first zone of the name, and fields that are left out, hold nothing or
are empty come to the same. -/
theorem preflight_accepts_iff (config : Config) (w : World) :
    (((preflight config).run w).outcome = .ok () ↔
      (config.text .vpcId = "" ∨ NetworkFits config w.answers) ∧
      KeyPairListed config w.answers ∧
      (config.text .hostedZone = "" ∨ ZoneFits config w.answers)) ∧
    (∀ id cursor, .listRecordSets id cursor ∈ ((preflight config).run w).requests →
      ∃ zones, w.answers.next .listHostedZones = .ok zones ∧
        firstZone (config.text .hostedZone) zones = some id) ∧
    ∀ v, v.answers.tidied = w.answers.tidied →
      ((preflight config).run v).outcome = ((preflight config).run w).outcome := by
  refine ⟨?_, fun id cursor => firstZone_of_mem_requests, fun v hv => ?_⟩
  · rw [outcome_preflight, preflightVerdict_eq_ok_iff]
  · rw [outcome_preflight, outcome_preflight, ← preflightVerdict_tidied, hv,
      preflightVerdict_tidied]

end ClusterLaunch
