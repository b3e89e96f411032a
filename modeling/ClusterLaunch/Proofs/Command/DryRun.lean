import ClusterLaunch.Proofs.Command.Submission
import ClusterLaunch.Proofs.Inputs.Sources
import ClusterLaunch.Proofs.Text.LowerForm
import ClusterLaunch.Proofs.Text.Pieces

/-! # Dry runs

A dry run is asked for by one of four words, in ASCII letters of either case and with blanks around
them or not, and by no other text. What is given for it has precedence over the environment.
-/

namespace ClusterLaunch

open Text

/-- Apart from blanks around it, a text is one of four words in ASCII letters of either case. -/
def Affirms (t : String) : Prop :=
  ∃ word ∈ ["true", "1", "yes", "on"], ∃ s, s.map Char.toLower = word.toList ∧ Padded s t.toList

theorem letters_of_mem_affirmatives {word : String} (h : word ∈ affirmatives) :
    ∀ c ∈ word.toList, IsFaithful c ∧ isBlank c = false := by
  have hall : (affirmatives.all fun word =>
      word.toList.all fun c => decide (IsFaithful c) && !isBlank c) = true := by decide +kernel
  intro c hc
  simpa using List.all_eq_true.mp (List.all_eq_true.mp hall word h) c hc

theorem lower_strip_eq_iff {word t : String} (h : word ∈ affirmatives) :
    lower (strip t.toList) = word.toList ↔
      ∃ s, s.map Char.toLower = word.toList ∧ Padded s t.toList := by
  have hletters := letters_of_mem_affirmatives h
  rw [lower_eq_iff fun c hc => (hletters c hc).1]
  constructor
  · intro hlower
    exact ⟨_, hlower, padded_strip _⟩
  · rintro ⟨s, hs, hpadded⟩
    have hblank : ∀ c ∈ s, isBlank c = false := by
      intro c hc
      rw [← apply_toLower isBlank (by decide) c]
      exact (hletters _ (hs ▸ List.mem_map_of_mem hc)).2
    rwa [(strip_eq_iff hblank).mpr hpadded]

theorem parseFlag_eq_true_iff {t : String} : parseFlag false (some t) = true ↔ Affirms t := by
  rw [parseFlag, List.contains_iff_mem]
  constructor
  · intro h
    refine ⟨_, h, (lower_strip_eq_iff h).mp ?_⟩
    rw [String.toList_ofList]
  · rintro ⟨word, hword, hs⟩
    rwa [(lower_strip_eq_iff hword).mpr hs, String.ofList_toList]

theorem not_affirms_empty : ¬ Affirms "" := fun h => nomatch (parseFlag_eq_true_iff.mpr h)

/-- The default asks for no dry run, and neither does an empty text. -/
theorem parseFlag_filled_eq_true_iff {given : Option String} :
    parseFlag false (filled (given.or (some "false"))) = true ↔
      ∃ t, given = some t ∧ Affirms t := by
  cases given with
  | none => exact iff_of_false (by decide +kernel) (by simp)
  | some t =>
    rw [Option.some_or]
    by_cases ht : t = ""
    · subst ht
      exact iff_of_false (by decide) (by simpa using not_affirms_empty)
    · rw [filled_eq_some_iff.mpr ⟨rfl, ht⟩, parseFlag_eq_true_iff]
      simp

namespace Inputs

open Item

variable {env : Environment} {required : Bool} {raw : RawInputs} {inputs : Inputs}

theorem toText_effective_dryRun :
    (effective env raw .dryRun).map Input.toText =
      (raw.dryRun.or (filled (env "DRY_RUN"))).or (some "false") := by
  unfold effective
  change ((raw.dryRun.map Input.text).or (((filled (env "DRY_RUN")).map (ofVariable .dryRun)).or
    (some (.text "false")))).map Input.toText = _
  cases raw.dryRun with
  | some t => rfl
  | none => cases filled (env "DRY_RUN") <;> rfl

/-- A dry run is asked for by what is given for it, or else by its variable unless that is empty. -/
theorem dryRun_eq_true_iff (h : resolve env required raw = .ok inputs) :
    inputs.dryRun = true ↔ ∃ t, raw.dryRun.or (filled (env "DRY_RUN")) = some t ∧ Affirms t := by
  have hyields : parseFlag false (filled ((effective env raw .dryRun).map Input.toText)) =
      inputs.dryRun := (resolve_eq_ok_iff.mp h).2 .dryRun
  rw [← hyields, toText_effective_dryRun, parseFlag_filled_eq_true_iff]

end Inputs

section Switch

variable {files : Files} {env env' : Environment} {a : Arguments} {b : Bool}

theorem dryRun_of_switch (ha : a.dryRun = some b) {inputs : Inputs}
    (h : Command.provision.inputs env a = .ok inputs) : inputs.dryRun = b := by
  have hraw : a.raw.dryRun = some (if b then "True" else "False") := by
    rw [Arguments.raw, ha]
    rfl
  have hiff := Inputs.dryRun_eq_true_iff h
  rw [hraw, Option.some_or] at hiff
  cases b with
  | true => exact hiff.mpr ⟨_, rfl, parseFlag_eq_true_iff.mp (by decide +kernel)⟩
  | false =>
    refine Bool.eq_false_iff.mpr fun htrue => ?_
    obtain ⟨t, ht, haffirms⟩ := hiff.mp htrue
    cases ht
    exact absurd (parseFlag_eq_true_iff.mpr haffirms) (by decide +kernel)

/-- With the switch set, the variable has no say. -/
theorem provisionCommand_congr_of_switch (ha : a.dryRun = some b)
    (henv : ∀ s, s ≠ "DRY_RUN" → env' s = env s) :
    provisionCommand files env' a = provisionCommand files env a := by
  have hresolve : Inputs.resolve env' true a.raw = Inputs.resolve env true a.raw := by
    refine Inputs.resolve_congr fun item => ?_
    cases item with
    | dryRun =>
      have hgiven : Inputs.Item.given a.raw .dryRun =
          some (.text (if b then "True" else "False")) := by
        rw [Inputs.Item.given, Arguments.raw, ha]
        rfl
      rw [Inputs.Item.effective, Inputs.Item.effective, hgiven, Option.some_or, Option.some_or]
    | _ =>
      rw [Inputs.Item.effective, Inputs.Item.effective, henv]
      decide
  rw [provisionCommand, provisionCommand, resolveInputs, resolveInputs, hresolve]

end Switch

/-- A dry run is asked for exactly by one of four words, in ASCII letters of either case and with
blanks around them or not. The text is what is given, or else the variable unless that is empty. A
switch that is set has precedence over the variable, and with it on no stack is submitted. -/
theorem dry_run_honoured (files : Files) (env : Environment) :
    (∀ required raw inputs, Inputs.resolve env required raw = .ok inputs →
      (inputs.dryRun = true ↔
        ∃ t, raw.dryRun.or (filled (env "DRY_RUN")) = some t ∧ Affirms t)) ∧
    ∀ (a : Arguments) (b : Bool), a.dryRun = some b →
      (∀ inputs, Command.provision.inputs env a = .ok inputs → inputs.dryRun = b) ∧
      (∀ env', (∀ s, s ≠ "DRY_RUN" → env' s = env s) →
        provisionCommand files env' a = provisionCommand files env a) ∧
      (b = true → ∀ w s, .createStack s ∉ ((provisionCommand files env a).run w).requests) := by
  refine ⟨fun _ _ _ => Inputs.dryRun_eq_true_iff, fun a b ha => ⟨fun _ => dryRun_of_switch ha,
    fun _ => provisionCommand_congr_of_switch ha, ?_⟩⟩
  rintro rfl w s hs
  obtain ⟨inputs, hinputs, hdry, -⟩ := of_mem_provisionCommand hs
  cases (dryRun_of_switch ha hinputs).symm.trans hdry

def Environment.rehearsing : Environment := fun s => if s = "DRY_RUN" then some "\u3000oN " else none

theorem dry_run_honoured_rehearsing :
    (∃ inputs, Inputs.resolve .rehearsing true
        { templatePath := some (Path.ofText "stack") } = .ok inputs ∧ inputs.dryRun = true) ∧
      ∃ inputs, Command.provision.inputs .rehearsing .pair = .ok inputs ∧
        inputs.dryRun = false := by
  obtain ⟨htext, hswitch⟩ := dry_run_honoured Files.pair .rehearsing
  constructor
  · have haffirms : Affirms "\u3000oN " := ⟨"on", by decide, ['o', 'N'], rfl, ['\u3000'], [' '], rfl,
      List.forall_mem_singleton.mpr rfl, List.forall_mem_singleton.mpr rfl⟩
    have hresolve : Inputs.resolve .rehearsing true
        { templatePath := some (Path.ofText "stack") } =
          .ok { Inputs.pair with dryRun := true } := rfl
    exact ⟨_, hresolve, (htext _ _ _ hresolve).mpr ⟨_, rfl, haffirms⟩⟩
  · exact ⟨.pair, rfl, (hswitch .pair false rfl).1 _ rfl⟩

end ClusterLaunch
