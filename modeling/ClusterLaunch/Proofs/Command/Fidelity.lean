import ClusterLaunch.Proofs.Command.Submission
import ClusterLaunch.Proofs.Config.Document
import ClusterLaunch.Proofs.Files.Breaks

/-! # What a submitted stack says

A stack that is submitted has the name and the tags of the configuration, the template with line
feeds for its line breaks, and two constants. So the same stack is submitted whichever line ends the
file of the template has.
-/

namespace ClusterLaunch

open Text

/-- A stack says what the files of a run say, and nothing that they do not. -/
structure Submission.Faithful (files : Files) (inputs : Inputs) (s : Submission) : Prop where
  document : ∃ d entries tags, Config.Documents files inputs.configPath d entries ∧
    (entries.map (·.1)).Nodup ∧
    (∃ v, (.text "clusterName", v) ∈ entries ∧ s.name = d.heap.plain v) ∧
    Config.Tagged d.heap entries tags ∧ s.tags = StackTag.ofPairs tags
  template : ∃ path, inputs.templatePath = some path ∧ ∃ t : String, files path = .ok t.toUTF8 ∧
    codePoints s.template.toList = (withFeeds t.toList).map Char.toNat
  onFailure : s.onFailure = "DO_NOTHING"
  capabilities : s.capabilities = ["CAPABILITY_IAM"]

def Files.write (files : Files) (path : Path) (t : List Char) : Files := fun p =>
  if p = path then .ok (String.ofList t).toUTF8 else files p

variable {files files' : Files} {env : Environment} {a : Arguments} {inputs : Inputs}

theorem readText_eq_ok_iff {document : Document} {path : Path} {text : String} :
    readText files document path = .ok text ↔ ∃ t : String, files path = .ok t.toUTF8 ∧
      text.toList = ofChars (withFeeds t.toList) := by
  unfold readText
  cases files path with
  | error cause => exact iff_of_false nofun fun ⟨_, h, _⟩ => nomatch h
  | ok bytes =>
    simp only [Except.ok.injEq, ← textOfBytes?_eq_some_iff]
    cases textOfBytes? bytes with
    | none => exact iff_of_false nofun nofun
    | some u => simp

theorem Inputs.Describe.faithful {config : Config} {template : String}
    (h : inputs.Describe files config template) :
    (Submission.ofConfig config template).Faithful files inputs where
  document := by
    obtain ⟨hidentified, d, entries, hdocuments, hkeys, hbuilt⟩ := Config.documents_of_load h.config
    exact ⟨d, entries, config.stackTags, hdocuments, hkeys,
      Config.exists_clusterName hidentified (Config.reflects_of_ofEntries hkeys hbuilt),
      Config.tagged_of_ofEntries hkeys hbuilt, rfl⟩
  template := by
    obtain ⟨path, hpath, htemplate⟩ := h.template
    obtain ⟨t, hfile, htext⟩ := readText_eq_ok_iff.mp htemplate
    refine ⟨path, hpath, t, hfile, ?_⟩
    change codePoints template.toList = _
    rw [htext, codePoints_ofChars]
  onFailure := rfl
  capabilities := rfl

/-- A run depends on the texts of its files alone. -/
theorem provisionCommand_congr
    (h : ∀ document path, readText files' document path = readText files document path) :
    provisionCommand files' env a = provisionCommand files env a := by
  have hload : loadConfig files' = loadConfig files := by
    funext path
    rw [loadConfig, loadConfig, Config.load, Config.load, h]
  have htemplate : readTemplate files' = readTemplate files := by
    funext path
    rw [readTemplate, readTemplate, h]
  rw [provisionCommand, provisionCommand, hload, htemplate]

theorem textOfBytes?_write (e : LineEnd) {t : List Char} (ht : '\r' ∉ t) :
    textOfBytes? (String.ofList (e.write t)).toUTF8 = textOfBytes? (String.ofList t).toUTF8 := by
  rw [textOfBytes?, textOfBytes?, fromUTF8?_toUTF8, fromUTF8?_toUTF8, Option.map_some,
    Option.map_some, String.toList_ofList, String.toList_ofList, unifyBreaks_ofChars,
    unifyBreaks_ofChars, e.unifyBreaks_write ht, unifyBreaks_eq_self ht]

theorem readText_write (e : LineEnd) {t : List Char} (ht : '\r' ∉ t) (path : Path)
    (document : Document) (p : Path) :
    readText (files.write path (e.write t)) document p =
      readText (files.write path t) document p := by
  unfold readText Files.write
  by_cases hp : p = path
  · rw [if_pos hp, if_pos hp]
    dsimp only
    rw [textOfBytes?_write e ht]
  · rw [if_neg hp, if_neg hp]

/-- A stack that a run submits says what the files of the run say, and nothing that they do not. The
same stack is submitted, and everything else done, whichever line ends the text in a file has, and
with any of them the template is that text. -/
theorem submission_faithful (files : Files) (env : Environment) (a : Arguments) :
    (∀ w s, .createStack s ∈ ((provisionCommand files env a).run w).requests →
      ∃ inputs, Command.provision.inputs env a = .ok inputs ∧ s.Faithful files inputs) ∧
    ∀ (path : Path) (t : List Char), '\r' ∉ t → ∀ e : LineEnd,
      provisionCommand (files.write path (e.write t)) env a =
        provisionCommand (files.write path t) env a ∧
      ∀ w s inputs, .createStack s ∈
          ((provisionCommand (files.write path (e.write t)) env a).run w).requests →
        Command.provision.inputs env a = .ok inputs → inputs.templatePath = some path →
        codePoints s.template.toList = t.map Char.toNat := by
  have hfaithful : ∀ (files : Files) w s,
      .createStack s ∈ ((provisionCommand files env a).run w).requests →
        ∃ inputs, Command.provision.inputs env a = .ok inputs ∧ s.Faithful files inputs := by
    intro files w s hs
    obtain ⟨inputs, hinputs, -, config, template, hdescribe, rfl⟩ := of_mem_provisionCommand hs
    exact ⟨inputs, hinputs, hdescribe.faithful⟩
  refine ⟨hfaithful files, fun path t ht e =>
    ⟨provisionCommand_congr (readText_write e ht path), fun w s inputs hs hinputs hpath => ?_⟩⟩
  obtain ⟨inputs', hinputs', hs'⟩ := hfaithful _ w s hs
  cases hinputs.symm.trans hinputs'
  obtain ⟨path', hpath', u, hfile, htemplate⟩ := hs'.template
  cases hpath.symm.trans hpath'
  rw [Files.write, if_pos rfl] at hfile
  have hu : u = String.ofList (e.write t) := by
    rw [← Option.some_inj, ← fromUTF8?_toUTF8, ← Except.ok.inj hfile, fromUTF8?_toUTF8]
  rw [htemplate, hu, String.toList_ofList, ← unifyBreaks_eq, e.unifyBreaks_write ht]

/-- A configuration with two tags, one of them without a value, and a template that begins with a
byte order mark and has a line end of each kind. -/
def Files.tagged : Files := fun path =>
  if path = Inputs.defaultConfig then
    .ok ("\x7b\"externalDNSName\":\"a.b\",\"keyName\":\"ops\",\"region\":\"here\"," ++
      "\"availabilityZone\":\"here-a\",\"clusterName\":\"blue\",\"kmsKeyArn\":\"arn\"," ++
      "\"stackTags\":\x7b\"team\":null,7: true\x7d\x7d").toUTF8
  else .ok "\uFEFFA\r\nB\rC\n".toUTF8

def Submission.tagged : Submission where
  name := "blue"
  template := "\uFEFFA\nB\nC\n"
  onFailure := "DO_NOTHING"
  capabilities := ["CAPABILITY_IAM"]
  tags := [⟨"team", ""⟩, ⟨"7", "True"⟩]

theorem submission_faithful_tagged :
    .createStack .tagged ∈
        ((provisionCommand Files.tagged (fun _ => none) .pair).run .failing).requests ∧
      ∃ inputs, Command.provision.inputs (fun _ => none) .pair = .ok inputs ∧
        Submission.tagged.Faithful Files.tagged inputs := by
  have hsubmitted : .createStack .tagged ∈
      ((provisionCommand Files.tagged (fun _ => none) .pair).run .failing).requests := by
    decide +kernel
  exact ⟨hsubmitted, (submission_faithful Files.tagged (fun _ => none) .pair).1 _ _ hsubmitted⟩

end ClusterLaunch
