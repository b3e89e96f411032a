import ClusterLaunch.Proofs.Config.Acceptance
import ClusterLaunch.Proofs.Config.Building
import ClusterLaunch.Proofs.Yaml.Keys

/-! # The document of a configuration

A configuration that is loaded from a file is that of a mapping, since without a name for the
cluster it would not be accepted. The mapping has every key once, so each setting of the
configuration is what one entry means.
-/

namespace ClusterLaunch.Config

structure Documents (files : Files) (path : Path) (d : Data) (entries : List (Scalar × Value)) :
    Prop where
  text : ∃ text, readText files .configuration path = .ok text ∧ Yaml.read text = .ok (some d)
  entries : ∃ id, d.value = .collection id ∧ d.heap.get id = .mapping entries

variable {h : Heap} {c : Config} {d : Data} {entries : List (Scalar × Value)}

/-- The keys of entries that a configuration is built from are texts, and of texts only equal ones
are the same key. -/
theorem nodup_of_distinct (hkeys : Distinct (entries.map (·.1)))
    (hc : ofEntries h entries = .ok c) : (entries.map (·.1)).Nodup := by
  have hsuits := exists_ofEntries_iff.mp ⟨c, hc⟩
  refine List.Pairwise.imp_of_mem (fun {a b} ha _ hab => ?_) hkeys
  rintro rfl
  obtain ⟨entry, hentry, rfl⟩ := List.mem_map.mp ha
  obtain ⟨_, _⟩ := hsuits entry hentry
  exact absurd hab (by simp [Scalar.sameKey])

theorem not_identified_initial : ¬ initial.Identified := fun h => h.clusterName rfl

theorem documents_of_ofData (hd : ofData d = .ok c) (hc : c.Identified)
    (hkeys : d.heap.HasDistinctKeys) :
    ∃ id entries, d.value = .collection id ∧ d.heap.get id = .mapping entries ∧
      (entries.map (·.1)).Nodup ∧ ofEntries d.heap entries = .ok c := by
  obtain ⟨entries, hentries, hbuilt⟩ := bind_eq_ok_iff.mp hd
  unfold entriesOf at hentries
  split at hentries
  · cases hentries
    cases hbuilt
    exact absurd hc not_identified_initial
  · cases hentries
  · rename_i id hvalue
    split at hentries
    · rename_i hid
      cases hentries
      exact ⟨id, entries, hvalue, hid, nodup_of_distinct (hkeys.distinct hid) hbuilt, hbuilt⟩
    · cases hentries

/-- A configuration that is loaded reflects the mapping in its file. -/
theorem documents_of_load {files : Files} {path : Path} (hload : load files path = .ok c) :
    c.Identified ∧ ∃ d entries, Documents files path d entries ∧ (entries.map (·.1)).Nodup ∧
      ofEntries d.heap entries = .ok c := by
  obtain ⟨text, htext, hload⟩ := bind_eq_ok_iff.mp hload
  obtain ⟨built, hparse, hchecked⟩ := bind_eq_ok_iff.mp hload
  obtain ⟨rfl, hcheck⟩ := checked_eq_ok_iff.mp hchecked
  have hidentified : built.Identified := (check_eq_ok_iff.mp hcheck).1
  refine ⟨hidentified, ?_⟩
  obtain ⟨document, hread, hbuilt⟩ := bind_eq_ok_iff.mp hparse
  have hread := mapError_eq_ok_iff.mp hread
  cases document with
  | none =>
    cases hbuilt
    exact absurd hidentified not_identified_initial
  | some d =>
    obtain ⟨id, entries, hvalue, hid, hnodup, hentries⟩ :=
      documents_of_ofData hbuilt hidentified (Yaml.hasDistinctKeys_of_read hread)
    exact ⟨d, entries, ⟨⟨text, htext, hread⟩, id, hvalue, hid⟩, hnodup, hentries⟩

/-- The tags that entries declare: those of a mapping with its keys and values as plain text. -/
inductive Tagged (h : Heap) (entries : List (Scalar × Value)) : List (String × String) → Prop
  | untagged (hnone : ∀ v, (.text "stackTags", v) ∈ entries → v = .scalar .null) :
      Tagged h entries []
  | mapping {id : Nat} {tags : List (Scalar × Value)}
      (hentry : (.text "stackTags", .collection id) ∈ entries) (hid : h.get id = .mapping tags) :
      Tagged h entries (tags.map fun tag => (tag.1.toText, h.plain tag.2))

/-- The tags of a configuration are those that its entries declare. -/
theorem tagged_of_ofEntries (hkeys : (entries.map (·.1)).Nodup)
    (hc : ofEntries h entries = .ok c) : Tagged h entries c.stackTags := by
  have hreflects := reflects_of_ofEntries hkeys hc
  have hadmits : ∀ v, (.text "stackTags", v) ∈ entries → Setting.stackTags.Admits h v := by
    refine fun v hv => Classical.byContradiction fun hnot => ?_
    have hmisfit : Misfit h (.text Setting.stackTags.key, v) _ := .refused hnot
    exact (exists_ofEntries_iff.mp ⟨c, hc⟩ _ hv).not_misfit hmisfit
  by_cases hsome : ∃ id, (.text "stackTags", .collection id) ∈ entries
  · obtain ⟨id, hentry⟩ := hsome
    have htags : c.stackTags = h.plainEntries (h.get id) := hreflects.present .stackTags _ hentry
    cases hadmits _ hentry with
    | tags hid =>
      rw [htags, hid]
      exact .mapping hentry hid
  · have hnull : ∀ v, (.text "stackTags", v) ∈ entries → v = .scalar .null := by
      intro v hv
      cases hadmits v hv with
      | noTags => rfl
      | tags hid => exact absurd ⟨_, hv⟩ hsome
    have htags : c.stackTags = [] := by
      by_cases hv : ∃ v, (.text "stackTags", v) ∈ entries
      · obtain ⟨v, hv⟩ := hv
        refine (hreflects.present .stackTags v hv).trans ?_
        rw [hnull v hv]
        rfl
      · exact hreflects.absent .stackTags (not_exists.mp hv)
    rw [htags]
    exact .untagged hnull

/-- The name of a cluster that is identified is what an entry says. -/
theorem exists_clusterName (hc : c.Identified) (hreflects : Reflects h entries c) :
    ∃ v, (.text "clusterName", v) ∈ entries ∧ c.text .clusterName = h.plain v := by
  refine Classical.byContradiction fun hnone => ?_
  have habsent : ∀ v, (.text (Setting.text .clusterName).key, v) ∉ entries := fun v hv =>
    hnone ⟨v, hv, hreflects.present (.text .clusterName) v hv⟩
  exact hc.clusterName (hreflects.absent (.text .clusterName) habsent)

end ClusterLaunch.Config
