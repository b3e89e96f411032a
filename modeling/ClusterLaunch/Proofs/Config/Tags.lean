import ClusterLaunch.Proofs.Config.Document
import ClusterLaunch.Proofs.Value.Spelling
import ClusterLaunch.Provision

/-! # The keys of tags

A configuration has one tag for each entry of a mapping, under the text of its key. The keys of the
mapping are different, and so are their texts unless two of the keys clash.
-/

namespace ClusterLaunch.Config

/-- The data in a text. A text without a document holds nothing. -/
def dataOf (text : String) (i : Yaml.Interpreter := {}) : Except Yaml.Error Data :=
  (·.getD (.ofScalar .null)) <$> Yaml.read text i

/-- The entries of the mapping that declares the tags, none if there is no such mapping. -/
def tagEntries (d : Data) : List (Scalar × Value) :=
  match entriesOf d with
  | .error _ => []
  | .ok entries => match entries.find? (·.1.sameKey (.text "stackTags")) with
    | some (_, .collection id) => match d.heap.get id with
      | .mapping tags => tags
      | _ => []
    | _ => []

variable {text : String} {i : Yaml.Interpreter} {c : Config} {d : Data}
  {entries : List (Scalar × Value)}

theorem parse_eq_ok_iff :
    parse text i = .ok c ↔ ∃ d, dataOf text i = .ok d ∧ ofData d = .ok c := by
  unfold parse dataOf
  cases Yaml.read text i with
  | error e => exact iff_of_false nofun fun ⟨_, h, _⟩ => nomatch h
  | ok document =>
    have hnone : ofData (.ofScalar .null) = .ok initial := rfl
    cases document with
    | none => exact ⟨fun h => ⟨_, rfl, hnone.trans h⟩, fun ⟨_, hd, h⟩ => by cases hd; exact h⟩
    | some d => exact ⟨fun h => ⟨d, rfl, h⟩, fun ⟨_, hd, h⟩ => by cases hd; exact h⟩

theorem hasDistinctKeys_of_dataOf (hd : dataOf text i = .ok d) : d.heap.HasDistinctKeys := by
  unfold dataOf at hd
  cases hread : Yaml.read text i with
  | error e =>
    rw [hread] at hd
    cases hd
  | ok document =>
    rw [hread] at hd
    cases hd
    cases document with
    | none => exact fun _ => trivial
    | some d => exact Yaml.hasDistinctKeys_of_read hread

theorem distinct_of_entriesOf (hkeys : d.heap.HasDistinctKeys)
    (hentries : entriesOf d = .ok entries) : Distinct (entries.map (·.1)) := by
  unfold entriesOf at hentries
  split at hentries
  · cases hentries
    exact .nil
  · cases hentries
  · split at hentries
    · rename_i hid
      cases hentries
      exact hkeys.distinct hid
    · cases hentries

theorem distinct_tagEntries (hkeys : d.heap.HasDistinctKeys) :
    Distinct ((tagEntries d).map (·.1)) := by
  unfold tagEntries
  split
  · exact .nil
  · split
    · split
      · rename_i hid
        exact hkeys.distinct hid
      · exact .nil
    · exact .nil

theorem sameKey_text_iff {s : Scalar} {t : String} : s.sameKey (.text t) = true ↔ s = .text t := by
  cases s <;> simp [Scalar.sameKey, Scalar.sameKey.numeric]

theorem key_of_find? {t : String} {entry : Scalar × Value}
    (hfind : entries.find? (·.1.sameKey (.text t)) = some entry) : entry.1 = .text t := by
  have hsame := List.find?_some hfind
  exact sameKey_text_iff.mp hsame

theorem find?_eq_some (hkeys : (entries.map (·.1)).Nodup) {t : String} {v : Value}
    (hentry : (.text t, v) ∈ entries) :
    entries.find? (·.1.sameKey (.text t)) = some (.text t, v) := by
  obtain ⟨entry, hfind⟩ : ∃ entry, entries.find? (·.1.sameKey (.text t)) = some entry :=
    Option.isSome_iff_exists.mp (List.find?_isSome.mpr ⟨_, hentry, sameKey_text_iff.mpr rfl⟩)
  rw [hfind, List.inj_on_of_nodup_map hkeys (List.mem_of_find?_eq_some hfind) hentry
    (key_of_find? hfind)]

theorem Tagged.eq_map (hkeys : (entries.map (·.1)).Nodup) (hentries : entriesOf d = .ok entries)
    {tags : List (String × String)} (ht : Tagged d.heap entries tags) :
    tags = (tagEntries d).map fun tag => (tag.1.toText, d.heap.plain tag.2) := by
  unfold tagEntries
  rw [hentries]
  dsimp only
  cases ht with
  | untagged hnone =>
    cases hfind : entries.find? (·.1.sameKey (.text "stackTags")) with
    | none => rfl
    | some entry =>
      obtain ⟨key, v⟩ := entry
      obtain rfl : key = .text "stackTags" := key_of_find? hfind
      rw [hnone v (List.mem_of_find?_eq_some hfind)]
      rfl
  | mapping hentry hid =>
    rw [find?_eq_some hkeys hentry]
    dsimp only
    rw [hid]

/-- The texts of different keys are different when the keys do not clash. -/
theorem nodup_toText_iff {keys : List Scalar} (hkeys : Distinct keys) :
    (keys.map Scalar.toText).Nodup ↔ keys.Pairwise fun a b => ¬ a.Clash b ∧ ¬ b.Clash a := by
  rw [List.Nodup, List.pairwise_map]
  constructor
  · intro h
    refine (hkeys.and h).imp fun ⟨hab, hne⟩ => ?_
    rwa [Ne, Scalar.toText_eq_iff_clash hab, not_or] at hne
  · intro h
    refine (hkeys.and h).imp fun ⟨hab, hclash⟩ => ?_
    rwa [Ne, Scalar.toText_eq_iff_clash hab, not_or]

/-- A configuration that an interpreter reads has one tag for each entry of the mapping that declares
them. The keys of this mapping are different, and those of the tags are different exactly if no two
of the keys clash. -/
theorem tag_keys_unique_iff (hc : parse text i = .ok c) :
    ∃ d, dataOf text i = .ok d ∧
      c.stackTags = (tagEntries d).map (fun tag => (tag.1.toText, d.heap.plain tag.2)) ∧
      Distinct ((tagEntries d).map (·.1)) ∧
      ∀ template, (((Submission.ofConfig c template).tags.map (·.key)).Nodup ↔
        ((tagEntries d).map (·.1)).Pairwise fun a b => ¬ a.Clash b ∧ ¬ b.Clash a) := by
  obtain ⟨d, hd, hbuilt⟩ := parse_eq_ok_iff.mp hc
  obtain ⟨entries, hentries, hbuilt⟩ := bind_eq_ok_iff.mp hbuilt
  have hdistinct := hasDistinctKeys_of_dataOf hd
  have hnodup := nodup_of_distinct (distinct_of_entriesOf hdistinct hentries) hbuilt
  have htags := (tagged_of_ofEntries hnodup hbuilt).eq_map hnodup hentries
  have htagKeys := distinct_tagEntries hdistinct
  refine ⟨d, hd, htags, htagKeys, fun template => ?_⟩
  rw [← nodup_toText_iff htagKeys]
  change ((StackTag.ofPairs c.stackTags).map (·.key)).Nodup ↔ _
  rw [htags, StackTag.ofPairs, List.map_map, List.map_map, List.map_map]
  rfl

theorem exists_of_toOption_map {α β : Type} {x : Except ConfigError α} {f : α → β} {b : β}
    (h : x.toOption.map f = some b) : ∃ a, x = .ok a ∧ f a = b := by
  cases x with
  | error e => cases h
  | ok a => exact ⟨a, rfl, Option.some_inj.mp h⟩

/-- Tags with keys of several types. -/
def typedTags : String :=
  "stackTags:\n  Owner: ops\n  7: seven\n  null: none\n  2001-02-03: day\n  1.5: half\n"

theorem tag_keys_unique_typed : ∃ c, parse typedTags = .ok c ∧
    (Submission.ofConfig c "").tags.map (·.key) = ["Owner", "7", "None", "2001-02-03", "1.5"] ∧
    ∃ d, dataOf typedTags = .ok d ∧
      ((tagEntries d).map (·.1)).Pairwise fun a b => ¬ a.Clash b ∧ ¬ b.Clash a := by
  have hread : (parse typedTags).toOption.map (fun c => (Submission.ofConfig c "").tags.map (·.key)) =
      some ["Owner", "7", "None", "2001-02-03", "1.5"] := by
    decide +kernel
  obtain ⟨c, hc, hkeys⟩ := exists_of_toOption_map hread
  obtain ⟨d, hd, -, -, hunique⟩ := tag_keys_unique_iff hc
  exact ⟨c, hc, hkeys, d, hd, (hunique "").mp (hkeys ▸ by decide)⟩

/-- Two tags of a complete configuration, with a number and its text for keys. -/
def repeatedTags : String :=
  "region: here\navailabilityZone: here-a\nclusterName: blue\nkeyName: ops\n" ++
    "externalDNSName: a.b\nkmsKeyArn: arn\nstackTags:\n  1: a\n  \"1\": b\n"

/-- The tags of a configuration that passes all checks can have the same key. -/
theorem tag_keys_repeated : ∃ c, parse repeatedTags = .ok c ∧ c.check = .ok () ∧
    ∀ template, ¬ ((Submission.ofConfig c template).tags.map (·.key)).Nodup := by
  have hread : (parse repeatedTags).toOption.map (fun c => (c.stackTags, c.check.toOption)) =
      some ([("1", "a"), ("1", "b")], some ()) := by
    decide +kernel
  obtain ⟨c, hc, hread⟩ := exists_of_toOption_map hread
  obtain ⟨htags, hcheck⟩ := Prod.mk.inj hread
  refine ⟨c, hc, ?_, fun template => ?_⟩
  · cases hchecked : c.check with
    | error e =>
      rw [hchecked] at hcheck
      cases hcheck
    | ok => rfl
  · change ¬ ((StackTag.ofPairs c.stackTags).map (·.key)).Nodup
    rw [htags]
    decide

end ClusterLaunch.Config
