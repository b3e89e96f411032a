import ClusterLaunch.Proofs.DomainName
import ClusterLaunch.Proofs.Preflight.Acceptance
import ClusterLaunch.Proofs.Preflight.RecordCursor

/-! # The look-up of a zone

A look-up finds the first listed zone of exactly the name that was asked for, and the names of all
records on the visited pages. Neither the spelling of names nor the pages on which the records
stand show in what is found.
-/

namespace ClusterLaunch

open Session DomainName

structure ReportedZone.Matches (z : ReportedZone) (name id : String) : Prop where
  id_eq : z.id = some id
  id_ne : id ≠ ""
  canon_eq : canon (z.name.getD "") = canon name

/-- A zone goes by a name, and no zone before it in a list does. -/
def FirstZone (name : String) (zones : List ReportedZone) (id : String) : Prop :=
  ∃ before z after, zones = before ++ z :: after ∧ z.Matches name id ∧
    ∀ y ∈ before, ∀ id', ¬ y.Matches name id'

/-- A name that is not empty stands on one of some pages of records. -/
def RecordPage.Lists (pages : List RecordPage) (name : String) : Prop :=
  name ≠ "" ∧ ∃ page ∈ pages, some name ∈ page.names

/-- The same zone, written in another way. -/
def ReportedZone.Alike (y z : ReportedZone) : Prop :=
  y.id = z.id ∧ DomainName.Alike (y.name.getD "") (z.name.getD "")

/-- Each name on some pages is alike to one on some other pages, and the other way round. -/
def RecordPage.Alike (pages pages' : List RecordPage) : Prop :=
  (∀ name, Lists pages name → ∃ name', Lists pages' name' ∧ DomainName.Alike name name') ∧
    ∀ name', Lists pages' name' → ∃ name, Lists pages name ∧ DomainName.Alike name name'

/-- Two zones have the same identifier, the same name and the same names of records. -/
structure HostedZone.Same (x y : HostedZone) : Prop where
  id : x.id = y.id
  name : x.name = y.name
  records : ∀ n, n ∈ x.recordNames ↔ n ∈ y.recordNames

variable {zone zone' id : String} {zones zones' : List ReportedZone}
  {pages pages' : List RecordPage}

theorem filled_of_matches_iff {z : ReportedZone} : (if canon (z.name.getD "") = canon zone then
    filled z.id else none) = some id ↔ z.Matches zone id := by
  rw [Option.ite_none_right_eq_some, filled_eq_some_iff]
  exact ⟨fun ⟨hname, hid, hne⟩ => ⟨hid, hne, hname⟩, fun ⟨hid, hne, hname⟩ => ⟨hname, hid, hne⟩⟩

theorem firstZone_eq_some_iff : firstZone zone zones = some id ↔ FirstZone zone zones id := by
  simp only [firstZone, List.findSome?_eq_some_iff, filled_of_matches_iff, FirstZone,
    Option.eq_none_iff_forall_ne_some, ne_eq]

theorem firstZone_eq_none_iff :
    firstZone zone zones = none ↔ ∀ z ∈ zones, ∀ id, ¬ z.Matches zone id := by
  rw [firstZone, List.findSome?_eq_none_iff]
  simp only [Option.eq_none_iff_forall_ne_some, ne_eq, filled_of_matches_iff]

/-- Zones that are written in another way do not change which of them is found. -/
theorem firstZone_congr (hzone : Alike zone zone')
    (hzones : List.Forall₂ ReportedZone.Alike zones zones') :
    firstZone zone zones = firstZone zone' zones' := by
  unfold firstZone
  induction hzones with
  | nil => rfl
  | cons hz _ ih =>
    rw [List.findSome?_cons, List.findSome?_cons, ih, hz.1, hz.2.canon_eq, hzone.canon_eq]

namespace HostedZone

theorem mem_recordNames {zone : HostedZone} {n : String} :
    n ∈ zone.recordNames ↔ n ∈ zone.records := by
  rw [recordNames, List.mem_mergeSort, List.mem_eraseDups]

theorem hasRecord_iff {zone : HostedZone} {n : String} :
    zone.hasRecord n = true ↔ canon n ∈ zone.recordNames := by
  rw [hasRecord, List.contains_iff_mem, mem_recordNames]

/-- The zone that is found: its records have the names on the visited pages. -/
def listed (zone id : String) (pages : List RecordPage) : HostedZone :=
  ⟨id, canon zone, pages.flatMap namesOf⟩

theorem mem_recordNames_listed {n : String} :
    n ∈ (listed zone id pages).recordNames ↔
      ∃ name, RecordPage.Lists pages name ∧ canon name = n := by
  rw [mem_recordNames, listed, List.mem_flatMap]
  simp only [mem_namesOf, RecordPage.Lists]
  constructor
  · rintro ⟨page, hpage, name, hname, hne, rfl⟩
    exact ⟨name, ⟨hne, page, hpage, hname⟩, rfl⟩
  · rintro ⟨name, ⟨hne, page, hpage, hname⟩, rfl⟩
    exact ⟨page, hpage, name, hname, hne, rfl⟩

theorem same_listed (hzone : Alike zone zone') (hpages : RecordPage.Alike pages pages') :
    (listed zone id pages).Same (listed zone' id pages') where
  id := rfl
  name := hzone.canon_eq
  records n := by
    rw [mem_recordNames_listed, mem_recordNames_listed]
    constructor
    · rintro ⟨name, hname, rfl⟩
      obtain ⟨name', hname', halike⟩ := hpages.1 name hname
      exact ⟨name', hname', halike.canon_eq.symm⟩
    · rintro ⟨name', hname', rfl⟩
      obtain ⟨name, hname, halike⟩ := hpages.2 name' hname'
      exact ⟨name, hname, halike.canon_eq⟩

theorem Same.hasRecord {x y : HostedZone} (h : x.Same y) {n n' : String} (hn : Alike n n') :
    x.hasRecord n = y.hasRecord n' := by
  rw [Bool.eq_iff_iff, hasRecord_iff, hasRecord_iff, hn.canon_eq, h.records]

variable {w : World}

theorem outcome_find_of_first (hzones : w.answers.next .listHostedZones = .ok zones)
    (hfirst : firstZone zone zones = some id)
    (hpages : Visits .listRecordSets RecordPage.Continues w.answers pages) :
    ((find zone).run w).outcome = .ok (listed zone id pages) := by
  rw [outcome_find]
  exact ofAnswers_eq_ok_iff.mpr
    ⟨zones, id, pages, hzones, hfirst, (visits_iff RecordPage.goesOn_iff).mp hpages, rfl⟩

theorem matching_eq_nil (hnone : firstZone zone zones = none) :
    matching (canon zone) zones = [] := by
  rw [← head?_matching] at hnone
  exact List.head?_eq_none_iff.mp hnone

theorem outcome_find_of_none (hzones : w.answers.next .listHostedZones = .ok zones)
    (hnone : firstZone zone zones = none) :
    ((find zone).run w).outcome = .error (.preflight (.zoneNotFound (canon zone))) := by
  rw [outcome_find, ofAnswers, hzones, ok_bind, matching_eq_nil hnone]

theorem requests_find_of_first (hzones : w.answers.next .listHostedZones = .ok zones)
    (hfirst : firstZone zone zones = some id) : ∃ cursors : List (Option RecordCursor),
    ((find zone).run w).requests =
      .listHostedZones (canon zone) :: cursors.map (.listRecordSets id) := by
  rw [← head?_matching] at hfirst
  obtain ⟨others, hid⟩ := List.head?_eq_some_iff.mp hfirst
  exact ⟨_, requests_find_of_matching hzones hid⟩

/-- If no listed zone goes by the name that was asked for, then the look-up fails and asks for no
records. Otherwise it finds the first zone that does, with the canonical names on the visited pages.
A look-up of zones and records that are the same but for the spelling of names and the order,
repetition and pages of records comes to the same. -/
theorem find_first_zone_and_records (hzones : w.answers.next .listHostedZones = .ok zones) :
    let r := (find zone).run w
    ((∀ z ∈ zones, ∀ id, ¬ z.Matches zone id) →
      r.outcome = .error (.preflight (.zoneNotFound (canon zone))) ∧
      r.requests = [.listHostedZones (canon zone)]) ∧
    (∀ id pages, FirstZone zone zones id →
      Visits .listRecordSets RecordPage.Continues w.answers pages →
      (∃ cursors : List (Option RecordCursor), r.requests =
        .listHostedZones (canon zone) :: cursors.map (.listRecordSets id)) ∧
      ∃ found, r.outcome = .ok found ∧ found.id = id ∧ found.name = canon zone ∧
        (∀ n, n ∈ found.recordNames ↔ ∃ name, RecordPage.Lists pages name ∧ canon name = n) ∧
        ∀ n, found.hasRecord n = true ↔
          ∃ name, RecordPage.Lists pages name ∧ canon name = canon n) ∧
    ∀ zone' zones' v, v.answers.next .listHostedZones = .ok zones' → Alike zone zone' →
      List.Forall₂ ReportedZone.Alike zones zones' →
      ((∀ z ∈ zones, ∀ id, ¬ z.Matches zone id) →
        ((find zone').run v).outcome = r.outcome) ∧
      ∀ id pages pages', FirstZone zone zones id →
        Visits .listRecordSets RecordPage.Continues w.answers pages →
        Visits .listRecordSets RecordPage.Continues v.answers pages' →
        RecordPage.Alike pages pages' →
        ∃ found found', r.outcome = .ok found ∧ ((find zone').run v).outcome = .ok found' ∧
          found.Same found' ∧ ∀ n n', Alike n n' → found.hasRecord n = found'.hasRecord n' := by
  dsimp only
  refine ⟨fun hnone => ?_, fun id pages hfirst hpages => ?_, ?_⟩
  · rw [← firstZone_eq_none_iff] at hnone
    exact ⟨outcome_find_of_none hzones hnone,
      requests_find_of_nil hzones (matching_eq_nil hnone)⟩
  · rw [← firstZone_eq_some_iff] at hfirst
    refine ⟨requests_find_of_first hzones hfirst, listed zone id pages,
      outcome_find_of_first hzones hfirst hpages, rfl, rfl,
      fun n => mem_recordNames_listed, fun n => ?_⟩
    rw [hasRecord_iff, mem_recordNames_listed]
  · intro zone' zones' v hzones' hzone halike
    have hfound := firstZone_congr hzone halike
    refine ⟨fun hnone => ?_, fun id pages pages' hfirst hpages hpages' hsame => ?_⟩
    · rw [← firstZone_eq_none_iff] at hnone
      rw [outcome_find_of_none hzones hnone,
        outcome_find_of_none hzones' (hfound.symm.trans hnone), hzone.canon_eq]
    · rw [← firstZone_eq_some_iff] at hfirst
      have hlisted : (listed zone id pages).Same (listed zone' id pages') :=
        same_listed hzone hsame
      exact ⟨_, _, outcome_find_of_first hzones hfirst hpages,
        outcome_find_of_first hzones' (hfound.symm.trans hfirst) hpages', hlisted,
        fun n n' => hlisted.hasRecord⟩

end HostedZone

/-- The zone and the records on the pages of `RecordPage.halfTyped` are found, however the name of
the zone is written. -/
theorem find_first_zone_half_typed :
    World.halfTyped.answers.next .listHostedZones = .ok [⟨some "Z1", some "example.com."⟩] ∧
    ∃ found, ((HostedZone.find "Example.com").run World.halfTyped).outcome = .ok found ∧
      found.id = "Z1" ∧ ∀ n, n ∈ found.recordNames ↔
        ∃ name, RecordPage.Lists RecordPage.halfTyped name ∧ canon name = n := by
  have hfirst : FirstZone "Example.com" [⟨some "Z1", some "example.com."⟩] "Z1" :=
    ⟨[], _, [], rfl, ⟨rfl, by decide, by decide +kernel⟩, nofun⟩
  have hpages : Visits .listRecordSets RecordPage.Continues World.halfTyped.answers
      RecordPage.halfTyped :=
    ⟨List.prefix_rfl, RecordPage.halfTyped.take 2, RecordPage.halfTyped[2], rfl, by decide,
      by decide⟩
  obtain ⟨-, found, hfound, hid, -, hrecords, -⟩ :=
    (HostedZone.find_first_zone_and_records rfl).2.1 "Z1" RecordPage.halfTyped hfirst hpages
  exact ⟨rfl, found, hfound, hid, hrecords⟩

end ClusterLaunch
