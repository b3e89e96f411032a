import ClusterLaunch.Cloud.Failure
import ClusterLaunch.Config.Reader
import ClusterLaunch.Proofs.Config.Content
import ClusterLaunch.Proofs.FirstFault
import ClusterLaunch.Proofs.Value.Nesting

/-! # Building a configuration

A configuration is built from entries exactly when each of them suits its setting. Then every
setting holds what its own entry means or else its default, so the order of the entries does not
matter. Otherwise the first entry that does not suit is the fault.
-/

namespace ClusterLaunch.Config

/-- An entry has the key of a setting and a value that the setting admits, and nothing keeps its
parts from being written out. -/
inductive Suits (h : Heap) : Scalar × Value → Prop
  | intro {s : Setting} {v : Value} (hv : s.Admits h v) (hfree : s.obstacle? h v = none) :
      Suits h (.text s.key, v)

inductive Misfit (h : Heap) : Scalar × Value → ConfigError → Prop
  | unknown {key : Scalar} {v : Value} (hkey : ∀ s : Setting, key ≠ .text s.key)
      (hwritable : key.isWritable = true) : Misfit h (key, v) (.unknownKey key)
  | longKey {key : Scalar} {v : Value} (hkey : ∀ s : Setting, key ≠ .text s.key)
      (hlong : key.isWritable = false) : Misfit h (key, v) (.unwritable .digits)
  | refused {s : Setting} {v : Value} (hv : ¬ s.Admits h v) :
      Misfit h (.text s.key, v) s.refusal
  | hindered {s : Setting} {v : Value} {o : Obstacle} (hv : s.Admits h v)
      (ho : s.obstacle? h v = some o) : Misfit h (.text s.key, v) (.unwritable o)

/-- Every setting holds what its own entry means, or its default if it has none. -/
structure Reflects (h : Heap) (entries : List (Scalar × Value)) (c : Config) : Prop where
  present : ∀ (s : Setting) (v : Value), (.text s.key, v) ∈ entries → c.get s = s.content h v
  absent : ∀ s : Setting, (∀ v, (.text s.key, v) ∉ entries) → c.get s = initial.get s

variable {h : Heap} {c d : Config} {entry : Scalar × Value} {entries : List (Scalar × Value)}
  {e : ConfigError}

theorem settingOf_key (s : Setting) : settingOf (.text s.key) = .ok s := by
  have hs : Setting.ofKey? s.key = some s := Setting.ofKey?_eq_some_iff.mpr rfl
  simp only [settingOf, hs]

theorem settingOf_unknown {key : Scalar} (hkey : ∀ s : Setting, key ≠ .text s.key) :
    settingOf key =
      if key.isWritable then .error (.unknownKey key) else .error (.unwritable .digits) := by
  unfold settingOf
  dsimp only
  split
  · rename_i text
    split
    · rename_i s hs
      exact absurd (congrArg Scalar.text (Setting.ofKey?_eq_some_iff.mp hs)) (hkey s)
    · rfl
  · rfl

theorem addEntry_key (h : Heap) (c : Config) (s : Setting) (v : Value) :
    addEntry h c (.text s.key, v) = (reading h v s).map (c.put s) := by
  rw [addEntry, settingOf_key, ok_bind, assign_eq]

theorem addEntry_of_free {s : Setting} {v : Value} (hv : s.Admits h v)
    (hfree : s.obstacle? h v = none) :
    addEntry h c (.text s.key, v) = .ok (c.put s (s.content h v)) := by
  rw [addEntry_key, reading_of_admits hv, hfree]
  rfl

theorem Misfit.addEntry_eq (hmisfit : Misfit h entry e) (c : Config) :
    addEntry h c entry = .error e := by
  cases hmisfit with
  | unknown hkey hwritable =>
    rw [addEntry, settingOf_unknown hkey, if_pos hwritable]
    rfl
  | longKey hkey hlong =>
    rw [addEntry, settingOf_unknown hkey, if_neg (Bool.eq_false_iff.mp hlong)]
    rfl
  | refused hv =>
    rw [addEntry_key, reading_of_not_admits hv]
    rfl
  | hindered hv ho =>
    rw [addEntry_key, reading_of_admits hv, ho]
    rfl

theorem suits_or_misfit (h : Heap) (entry : Scalar × Value) :
    Suits h entry ∨ ∃ e, Misfit h entry e := by
  obtain ⟨key, v⟩ := entry
  by_cases hkey : ∃ s : Setting, key = .text s.key
  · obtain ⟨s, rfl⟩ := hkey
    by_cases hv : s.Admits h v
    · cases ho : s.obstacle? h v with
      | none => exact .inl (.intro hv ho)
      | some o => exact .inr ⟨_, .hindered hv ho⟩
    · exact .inr ⟨_, .refused hv⟩
  · have hkey' : ∀ s : Setting, key ≠ .text s.key := not_exists.mp hkey
    cases hw : key.isWritable with
    | true => exact .inr ⟨_, .unknown hkey' hw⟩
    | false => exact .inr ⟨_, .longKey hkey' hw⟩

theorem Suits.not_misfit (hsuits : Suits h entry) : ¬ Misfit h entry e := by
  intro hmisfit
  have herror := hmisfit.addEntry_eq initial
  cases hsuits with
  | intro hv hfree =>
    rw [addEntry_of_free hv hfree] at herror
    cases herror

theorem suits_iff : Suits h entry ↔ ¬ ∃ e, Misfit h entry e :=
  ⟨fun hsuits ⟨_, hmisfit⟩ => hsuits.not_misfit hmisfit, (suits_or_misfit h entry).resolve_right⟩

theorem addEntry_eq_error_iff : addEntry h c entry = .error e ↔ Misfit h entry e := by
  refine ⟨fun herror => ?_, fun hmisfit => hmisfit.addEntry_eq c⟩
  obtain hsuits | ⟨f, hf⟩ := suits_or_misfit h entry
  · cases hsuits with
    | intro hv hfree =>
      rw [addEntry_of_free hv hfree] at herror
      cases herror
  · cases (hf.addEntry_eq c).symm.trans herror
    exact hf

theorem suits_of_addEntry (hc : addEntry h c entry = .ok d) : Suits h entry := by
  refine suits_iff.mpr fun ⟨e, hmisfit⟩ => ?_
  cases hc.symm.trans (hmisfit.addEntry_eq c)

theorem ofEntries_eq_error_iff :
    ofEntries h entries = .error e ↔ FirstFault (Misfit h) entries e := by
  have hstep : ∀ c entry e, addEntry h c entry = .error e ↔ Misfit h entry e :=
    fun _ _ _ => addEntry_eq_error_iff
  exact foldlM_eq_error_iff hstep

theorem exists_ofEntries_iff :
    (∃ c, ofEntries h entries = .ok c) ↔ ∀ entry ∈ entries, Suits h entry := by
  have herror : (∃ e, ofEntries h entries = .error e) ↔
      ∃ entry ∈ entries, ∃ e, Misfit h entry e := by
    simp only [ofEntries_eq_error_iff, exists_firstFault_iff]
  simp only [suits_iff]
  cases hbuilt : ofEntries h entries with
  | error e =>
    obtain ⟨entry, hmem, hmisfit⟩ := herror.mp ⟨e, hbuilt⟩
    exact iff_of_false nofun fun hall => hall entry hmem hmisfit
  | ok c =>
    refine iff_of_true ⟨c, rfl⟩ fun entry hmem hmisfit => ?_
    obtain ⟨e, he⟩ := herror.mpr ⟨entry, hmem, hmisfit⟩
    cases hbuilt.symm.trans he

/-- Reading entries sets the settings whose keys they have and no others. -/
theorem foldlM_addEntry (hkeys : (entries.map (·.1)).Nodup)
    (hc : entries.foldlM (addEntry h) c = .ok d) :
    (∀ (s : Setting) (v : Value), (.text s.key, v) ∈ entries → d.get s = s.content h v) ∧
      ∀ s : Setting, (∀ v, (.text s.key, v) ∉ entries) → d.get s = c.get s := by
  induction entries generalizing c with
  | nil =>
    cases hc
    exact ⟨nofun, fun _ _ => rfl⟩
  | cons entry entries ih =>
    rw [List.foldlM_cons, bind_eq_ok_iff] at hc
    obtain ⟨c', hentry, hc⟩ := hc
    rw [List.map_cons, List.nodup_cons] at hkeys
    obtain ⟨hpresent, habsent⟩ := ih hkeys.2 hc
    obtain @⟨s, v, hv, hfree⟩ := suits_of_addEntry hentry
    rw [addEntry_of_free hv hfree] at hentry
    cases hentry
    have hself : d.get s = s.content h v := by
      rw [habsent s fun w hw => hkeys.1 (List.mem_map.mpr ⟨_, hw, rfl⟩), get_put_self]
    constructor
    · intro t w hmem
      obtain heq | hmem := List.mem_cons.mp hmem
      · obtain ⟨hkey, rfl⟩ := Prod.mk.inj heq
        rw [Setting.key_injective (Scalar.text.inj hkey)]
        exact hself
      · exact hpresent t w hmem
    · intro t ht
      have hne : t ≠ s := by
        rintro rfl
        exact ht v List.mem_cons_self
      rw [habsent t fun w hw => ht w (List.mem_cons_of_mem _ hw), get_put_of_ne c hne]

theorem reflects_of_ofEntries (hkeys : (entries.map (·.1)).Nodup)
    (hc : ofEntries h entries = .ok c) : Reflects h entries c :=
  have ⟨hpresent, habsent⟩ := foldlM_addEntry hkeys hc
  ⟨hpresent, habsent⟩

theorem Reflects.unique (hc : Reflects h entries c) (hd : Reflects h entries d) : c = d := by
  refine eq_of_get_eq fun s => ?_
  by_cases hs : ∃ v, (.text s.key, v) ∈ entries
  · obtain ⟨v, hv⟩ := hs
    rw [hc.present s v hv, hd.present s v hv]
  · rw [hc.absent s (not_exists.mp hs), hd.absent s (not_exists.mp hs)]

theorem checked_eq_ok_iff : c.checked = .ok d ↔ c = d ∧ c.check = .ok () := by
  rw [checked, bind_eq_ok_iff]
  constructor
  · rintro ⟨⟨⟩, hcheck, hpure⟩
    exact ⟨Except.ok.inj hpure, hcheck⟩
  · rintro ⟨rfl, hcheck⟩
    exact ⟨(), hcheck, rfl⟩

end ClusterLaunch.Config
