import ClusterLaunch.Config.Reader
import ClusterLaunch.Proofs.Config.Acceptance

/-! # Loading a configuration

Most faults of a file belong to a family, and the tools report them. The others are a path that
names no file at all, bytes that are no text, single values without meaning, and values that cannot
be written out.
-/

namespace ClusterLaunch

/-- A file without a text, for a reason that is none of the file system. -/
inductive Illegible (files : Files) (path : Path) : Prop
  | path (h : files path = .error .unusable ∨ files path = .error .notEncodable)
  | encoding {bytes : ByteArray} (h : files path = .ok bytes) (hb : ¬ bytes.IsValidUTF8)

variable {files : Files} {path : Path}

theorem textOfBytes?_eq_none_iff {bytes : ByteArray} :
    textOfBytes? bytes = none ↔ ¬ bytes.IsValidUTF8 := by
  unfold textOfBytes? String.fromUTF8?
  split
  · rename_i h
    exact iff_of_false nofun fun hnot => hnot h
  · rename_i h
    exact iff_of_true rfl h

/-- The files whose texts cannot be read are reported, except the illegible ones. -/
theorem readText_error {document : Document} {e : ConfigError}
    (h : readText files document path = .error e) :
    e.family? = some .clusterConfig ∨ e.family? = none ∧ Illegible files path := by
  unfold readText at h
  cases hfile : files path with
  | error cause =>
    rw [hfile] at h
    cases h
    cases cause with
    | unusable => exact .inr ⟨rfl, .path (.inl hfile)⟩
    | notEncodable => exact .inr ⟨rfl, .path (.inr hfile)⟩
    | _ => exact .inl rfl
  | ok bytes =>
    rw [hfile] at h
    dsimp only at h
    cases htext : textOfBytes? bytes with
    | some text =>
      rw [htext] at h
      cases h
    | none =>
      rw [htext] at h
      cases h
      exact .inr ⟨rfl, .encoding hfile (textOfBytes?_eq_none_iff.mp htext)⟩

namespace Config

/-- A file that no configuration can be loaded from, for a reason that no family has. -/
inductive Unfit (files : Files) (path : Path) : Prop
  | illegible (h : Illegible files path)
  /-- A single value of the document has no meaning. -/
  | value {text : String} {e : Yaml.Error} (h : readText files .configuration path = .ok text)
      (he : Yaml.read text = .error e) (hne : e ≠ .malformed)
  /-- A value or a key of the document cannot be written out. -/
  | writing {text : String} {d : Data} {o : Obstacle}
      (h : readText files .configuration path = .ok text) (hd : Yaml.read text = .ok (some d))
      (ho : ofData d = .error (.unwritable o))

inductive EntryFault : ConfigError → Prop
  | known {e : ConfigError} (h : e.family? = some .clusterConfig) : EntryFault e
  | unwritable (o : Obstacle) : EntryFault (.unwritable o)

theorem failsWith_written (h : Heap) (v : Value) : FailsWith EntryFault (written h v) := by
  unfold written
  split
  · exact failsWith_error (.unwritable _)
  · exact failsWith_ok _

theorem failsWith_textOf (h : Heap) (s : TextSetting) (v : Value) :
    FailsWith EntryFault (textOf h s v) := by
  unfold textOf
  split
  · exact failsWith_ok _
  · exact failsWith_error (.known rfl)
  · exact failsWith_written h _
  · split
    · exact failsWith_written h _
    · exact failsWith_error (.known rfl)

theorem failsWith_tagOf (h : Heap) (key : Scalar) (v : Value) :
    FailsWith EntryFault (tagOf h key v) := by
  refine (failsWith_written h _).bind fun name _ => ?_
  split
  · exact failsWith_ok _
  · exact (failsWith_written h _).bind fun _ _ => failsWith_ok _

theorem failsWith_tagsOf (h : Heap) (v : Value) : FailsWith EntryFault (tagsOf h v) := by
  unfold tagsOf
  split
  · exact failsWith_ok _
  · exact failsWith_error (.known rfl)
  · split
    · exact failsWith_mapM (fun (k, v) => failsWith_tagOf h k v) _
    · exact failsWith_error (.known rfl)

theorem failsWith_assign (h : Heap) (c : Config) (s : Setting) (v : Value) :
    FailsWith EntryFault (assign h c s v) := by
  cases s with
  | text t => exact (failsWith_textOf h t v).map _
  | createRecordSet =>
    refine FailsWith.map ?_ _
    unfold flagOf
    split
    · exact failsWith_ok _
    · exact failsWith_error (.known rfl)
  | recordSetTTL =>
    refine FailsWith.map ?_ _
    unfold integerOf
    split
    · exact failsWith_ok _
    · exact failsWith_error (.known rfl)
  | stackTags => exact (failsWith_tagsOf h v).map _

theorem failsWith_settingOf (key : Scalar) : FailsWith EntryFault (settingOf key) := by
  have hunknown : FailsWith EntryFault
      (if key.isWritable then .error (.unknownKey key) else .error (.unwritable .digits) :
        Except ConfigError Setting) :=
    failsWith_guard (fun _ => .known rfl) (failsWith_error (.unwritable _))
  unfold settingOf
  dsimp only
  split
  · split
    · exact failsWith_ok _
    · exact hunknown
  · exact hunknown

theorem failsWith_ofData (d : Data) : FailsWith EntryFault (ofData d) := by
  have hentries : FailsWith EntryFault (entriesOf d) := by
    unfold entriesOf
    split
    · exact failsWith_ok _
    · exact failsWith_error (.known rfl)
    · split
      · exact failsWith_ok _
      · exact failsWith_error (.known rfl)
  refine hentries.bind fun entries _ => failsWith_foldlM (fun c entry => ?_) entries initial
  exact (failsWith_settingOf entry.1).bind fun s _ => failsWith_assign d.heap c s entry.2

/-- A fault of loading a configuration: one of a family, or one of an unfit file. -/
inductive LoadFault (files : Files) (path : Path) (e : ConfigError) : Prop
  | known (h : e.family? = some .clusterConfig ∨ e.family? = some .networkFormat)
  | stray (h : e.family? = none) (hunfit : Unfit files path)

/-- Each stage of loading has its own faults: reading, the language, the entries and the check. -/
theorem failsWith_load (files : Files) (path : Path) :
    FailsWith (LoadFault files path) (load files path) := by
  refine FailsWith.bind (fun e he => ?_) fun text htext => FailsWith.bind ?_ fun c _ => ?_
  · rcases readText_error he with hsome | ⟨hnone, hillegible⟩
    · exact .known (.inl hsome)
    · exact .stray hnone (.illegible hillegible)
  · refine FailsWith.bind (failsWith_mapError fun e he => ?_) fun data hdata => ?_
    · by_cases hmalformed : e = .malformed
      · exact .known (.inl (if_pos hmalformed))
      · exact .stray (if_neg hmalformed) (.value htext he hmalformed)
    · cases data with
      | none => exact failsWith_ok _
      | some d =>
        intro e he
        rcases failsWith_ofData d e he with hknown | o
        · exact .known (.inl hknown)
        · exact .stray rfl (.writing htext (mapError_eq_ok_iff.mp hdata) he)
  · refine FailsWith.bind (fun e he => ?_) fun _ _ => failsWith_ok _
    rcases failsWith_check c e he with h | ⟨h, -⟩
    · exact .known (.inl h)
    · exact .known (.inr h)

end Config

end ClusterLaunch
