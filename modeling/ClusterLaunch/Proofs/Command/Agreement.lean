import ClusterLaunch.Proofs.Command.Opening

/-! # Validation, dry runs and real runs

In a host that takes their first lines, a validation and a dry run find the same. A real run finds
it too, and it submits its stack exactly when they find nothing wrong. Where the host does not take
the line that names the network, the validation goes on, and the other two end before they ask
anything.
-/

namespace ClusterLaunch

open Session

/-- Whether an event makes clients or asks for the live state. -/
def Event.isLookup : Event → Bool
  | .connected _ _ => true
  | .requested r => r.method.service ≠ .cloudformation
  | _ => false

/-- The clients that a run makes and its requests for the live state. -/
def Run.lookups {α : Type} (r : Run α) : List Event := r.events.filter Event.isLookup

theorem Run.lookups_hushed {α : Type} (r : Run α) : r.hushed.lookups = r.lookups :=
  r.filter_hushed fun _ => rfl

/-- A course that has to do with stacks alone looks nothing up. -/
theorem Session.Course.lookups_eq_nil {α : Type} {σ : Method → Failure → Failure} {x : Session α}
    (hx : Course lookupsᶜ σ x) (w : World) : (x.run w).lookups = [] := by
  induction hx generalizing w with
  | inquiry hx =>
    apply List.filter_eq_nil_iff.mpr
    intro e he hlookup
    rcases hx.events he with ⟨r, rfl, hr⟩ | ⟨record, rfl⟩
    · have hservice : r.method.service ≠ .cloudformation := of_decide_eq_true hlookup
      exact hr hservice
    · cases hlookup
  | print line => rfl
  | complain line => rfl
  | now => rfl
  | sleep seconds => rfl
  | @bind _ _ x f _ _ ihx ihf =>
    cases h : (x.run w).outcome with
    | error e =>
      rw [run_bind_error h]
      exact ihx w
    | ok a =>
      rw [run_bind_ok h, Run.lookups, List.filter_append]
      exact List.append_eq_nil_iff.mpr ⟨ihx w, ihf a _⟩

theorem reads_inspect (files : Files) (inputs : Inputs) : Reads lookups (inspect files inputs) := by
  apply Reads.bind
  · exact (reads_log _ _ _).bind fun _ => reads_ofResult _
  intro config
  apply (reads_connect _ _).bind
  intro _
  exact (inquiry_preflight config).reads.bind fun _ => reads_pure config

theorem reads_inspected {conclude : Inputs → Config → Session ExitStatus}
    (h : ∀ inputs config, Reads lookups (conclude inputs config)) (files : Files)
    (env : Environment) (raw : RawInputs) : Reads lookups (inspected files env raw conclude) := by
  apply (reads_ofResult _).bind
  intro inputs
  apply ((reads_inspect files inputs).bind (h inputs)).rescue
  intro e
  split
  · exact (reads_complain e.report).bind fun _ => reads_pure e.exitStatus
  · exact reads_fail e

theorem lookups_guarded (command : Session ExitStatus) (w : World) :
    ((guarded command).run w).lookups = (command.run w).lookups := by
  rcases events_guarded command w with h | ⟨line, h⟩
  · rw [Run.lookups, h]
    rfl
  · rw [Run.lookups, h, List.filter_append]
    exact List.append_nil _

theorem requests_guarded (command : Session ExitStatus) (w : World) :
    ((guarded command).run w).requests = (command.run w).requests := by
  rcases events_guarded command w with h | ⟨line, h⟩
  · rw [Run.requests, h]
    rfl
  · rw [Run.requests, h, List.filterMap_append]
    exact List.append_nil _

theorem methods_guarded (command : Session ExitStatus) (w : World) :
    ((guarded command).run w).methods = (command.run w).methods :=
  congrArg (List.map Request.method) (requests_guarded command w)

theorem lookups_enact (config : Config) (plan : ProvisionPlan) (w : World) :
    ((guarded (enact config plan).hushed).run w).lookups = [] := by
  have hcourse : Course lookupsᶜ (wording config) (enact config plan) := by
    apply (course_launch config plan).bind
    intro result
    split
    · exact .bind (.print _) fun _ => .inquiry (.pure _)
    · exact .inquiry (.pure _)
  rw [lookups_guarded]
  exact ((enact config plan).run w).lookups_hushed.trans (hcourse.lookups_eq_nil w)

theorem createStack_mem_enact (config : Config) (plan : ProvisionPlan) (w : World) :
    Method.createStack ∈ ((guarded (enact config plan).hushed).run w).methods := by
  obtain ⟨after, hlaunch, -⟩ := methods_launch config plan w
  rw [methods_guarded]
  change Method.createStack ∈ ((enact config plan).run w).hushed.methods
  rw [Run.methods_hushed]
  apply (methods_prefix_bind (launch config plan) _ w).subset
  rw [hlaunch]
  exact List.mem_cons_self

def Command.loaded (c : Command) (files : Files) (env : Environment) (a : Arguments) :
    Except InputError (Except ConfigError Config) :=
  (c.inputs env a).map fun inputs => Config.load files inputs.configPath

/-- A dry run and a real run find what the validation finds. -/
structure Concord (validation dry real : Run ExitStatus) : Prop where
  /-- Apart from the standard output, a dry run does what the validation does. -/
  dry_outcome : dry.outcome = validation.outcome
  dry_events : dry.hushed.events = validation.hushed.events
  dry_complaints : dry.complaints = validation.complaints
  /-- A real run does so too, and then it may do more. -/
  begins : validation.hushed.events <+: real.hushed.events
  lookups : dry.lookups = validation.lookups ∧ real.lookups = validation.lookups
  asks : ∀ m, m ∈ validation.methods ∨ m ∈ dry.methods → m.service ≠ .cloudformation
  submits : Method.createStack ∈ real.methods ↔ validation.outcome = .ok .success
  stops : validation.outcome ≠ .ok .success →
    real.outcome = validation.outcome ∧ real.complaints = validation.complaints

/-- A run goes on after another one. If that one did not end with success there is no more to do,
and otherwise a stack is submitted. -/
structure Continues (checked enacted : Run ExitStatus) (rest : List Event) : Prop where
  events : enacted.events = checked.events ++ rest
  lookups : rest.filter Event.isLookup = []
  submits : Method.createStack ∈ Event.methods rest ↔ checked.outcome = .ok .success
  stops : checked.outcome ≠ .ok .success → enacted.outcome = checked.outcome ∧ rest = []

theorem continues_survey (files : Files) (env : Environment) (raw : RawInputs)
    (plan : Inputs → ProvisionPlan) (w : World) :
    ∃ rest, Continues ((survey files env raw).run w)
      ((inspected files env raw fun inputs config =>
        (enact config (plan inputs)).hushed).run w) rest := by
  rcases inspected_cases files env raw w with ⟨r, hr, hrun⟩ | ⟨inputs, config, before, v, hrun⟩
  · refine ⟨[], ?_⟩
    rw [survey, hrun, hrun]
    exact ⟨(List.append_nil _).symm, rfl, iff_of_false List.not_mem_nil hr, fun _ => ⟨rfl, rfl⟩⟩
  · have hchecked : (survey files env raw).run w = ⟨.ok .success, before, v⟩ := by
      rw [survey, hrun]
      exact congrArg (fun events => (⟨.ok .success, events, v⟩ : Run ExitStatus))
        (List.append_nil before)
    refine ⟨((guarded (enact config (plan inputs)).hushed).run v).events, ?_⟩
    rw [hchecked, hrun]
    exact ⟨rfl, lookups_enact config (plan inputs) v,
      iff_of_true (createStack_mem_enact config (plan inputs) v) rfl, fun hnot => absurd rfl hnot⟩

/-- Runs with the same events apart from the standard output look up, write and ask the same. -/
theorem Run.congr_of_hushed {r s : Run ExitStatus} (h : r.hushed.events = s.hushed.events) :
    r.lookups = s.lookups ∧ r.complaints = s.complaints ∧ r.methods = s.methods := by
  refine ⟨?_, ?_, ?_⟩
  · rw [← r.lookups_hushed, ← s.lookups_hushed, Run.lookups, h]
    rfl
  · rw [← r.complaints_hushed, ← s.complaints_hushed, Run.complaints, h]
    rfl
  · rw [← r.methods_hushed, ← s.methods_hushed, Run.methods, Run.requests, h]
    rfl

/-- The validation agrees with the dry run, and with a run after which the real run goes on. -/
theorem concord_of_agree {validation dry real checked : Run ExitStatus}
    {rest : List Event} (hdry : validation.hushed.Agree lookups dry.hushed)
    (hchecked : validation.hushed.Agree lookups checked)
    (hreal : Continues checked real.hushed rest)
    (hasks : ∀ m ∈ validation.methods, m ∈ lookups) : Concord validation dry real := by
  obtain ⟨hlookups, hcomplaints, hmethods⟩ := Run.congr_of_hushed hdry.events
  have houtcome : validation.outcome = checked.outcome := hchecked.outcome
  have hevents : real.hushed.events = validation.hushed.events ++ rest := by
    rw [hreal.events, hchecked.events]
  have hrealLookups : real.lookups = validation.lookups := by
    rw [← real.lookups_hushed, ← validation.lookups_hushed, Run.lookups, hevents,
      List.filter_append, hreal.lookups]
    exact List.append_nil _
  have hrealMethods : real.methods = validation.methods ++ Event.methods rest := by
    rw [← real.methods_hushed, ← validation.methods_hushed, Run.methods, Run.requests, hevents,
      List.filterMap_append, List.map_append]
    rfl
  refine ⟨hdry.outcome.symm, hdry.events.symm, hcomplaints.symm, ⟨rest, hevents.symm⟩,
    ⟨hlookups.symm, hrealLookups⟩, ?_, ?_, ?_⟩
  · intro m hm
    rw [← hmethods, or_self] at hm
    exact hasks m hm
  · rw [hrealMethods, houtcome, ← hreal.submits, List.mem_append]
    exact or_iff_right fun hm => hasks _ hm rfl
  · intro hfailed
    rw [houtcome] at hfailed
    obtain ⟨hsame, rfl⟩ := hreal.stops hfailed
    rw [List.append_nil] at hevents
    exact ⟨hsame.trans houtcome.symm, (Run.congr_of_hushed hevents).2.1⟩

variable {files : Files} {env : Environment} {config : Option Path} {profile : Option String}

theorem inputs_provision (henv : filled (env "STACK_TEMPLATE") = none) (template : Path)
    (dryRun : Bool) :
    Command.provision.inputs env
        { config, template := some template, profile, dryRun := some dryRun } =
      (Command.validate.inputs env { config, profile }).map fun inputs =>
        { inputs with templatePath := some template, dryRun := dryRun } :=
  Inputs.resolve_template config profile henv template dryRun

theorem loaded_provision (henv : filled (env "STACK_TEMPLATE") = none) (template : Path)
    (dryRun : Bool) :
    Command.provision.loaded files env
        { config, template := some template, profile, dryRun := some dryRun } =
      Command.validate.loaded files env { config, profile } := by
  rw [Command.loaded, Command.loaded, inputs_provision henv]
  cases Command.validate.inputs env { config, profile } <;> rfl

/-- Without a host, what a validation finds is what a dry run and a real run find. -/
theorem concord_of_world_agree (henv : filled (env "STACK_TEMPLATE") = none) {template : Path}
    {text : String} (htemplate : readText files .template template = .ok text) {v d r : World}
    (hd : v.Agree lookups d) (hr : v.Agree lookups r) :
    Concord ((Command.validate.run files env { config, profile }).run v)
      ((Command.provision.run files env
        { config, template := some template, profile, dryRun := some true }).run d)
      ((Command.provision.run files env
        { config, template := some template, profile, dryRun := some false }).run r) := by
  have hreads : Reads lookups (survey files env { configPath := config, profile }) :=
    reads_inspected (fun _ _ => reads_pure _) files env _
  have hvalidation : ((Command.validate.run files env { config, profile }).run v).hushed =
      (survey files env { configPath := config, profile }).run v :=
    congrArg (Session.run · v) (hushed_validateCommand config profile henv)
  have hdry : ((Command.provision.run files env
      { config, template := some template, profile, dryRun := some true }).run d).hushed =
      (survey files env { configPath := config, profile }).run d :=
    congrArg (Session.run · d) (hushed_provisionCommand config profile henv htemplate true)
  have hreal : ((Command.provision.run files env
      { config, template := some template, profile, dryRun := some false }).run r).hushed =
      (inspected files env { configPath := config, profile } fun inputs config =>
        (enact config ⟨text, false, inputs.pollInterval, inputs.waitLimit⟩).hushed).run r :=
    congrArg (Session.run · r) (hushed_provisionCommand config profile henv htemplate false)
  obtain ⟨rest, hrest⟩ := continues_survey files env { configPath := config, profile }
    (fun inputs => ⟨text, false, inputs.pollInterval, inputs.waitLimit⟩) r
  rw [← hreal] at hrest
  refine concord_of_agree ?_ ?_ hrest ?_
  · rw [hvalidation, hdry]
    exact hreads.agree hd
  · rw [hvalidation]
    exact hreads.agree hr
  · intro m hm
    rw [← Run.methods_hushed, hvalidation] at hm
    exact hreads.methods hm

/-- A host that refuses nothing of a validation and of a dry run, and nothing of a real run before
its submission, leaves them in concord. -/
theorem Concord.hosted {validation dry real : Run ExitStatus} {host : Host}
    (h : Concord validation dry real)
    (hvalidation : host.AdmitsUntil {.createStack} validation.events)
    (hdry : host.AdmitsUntil {.createStack} dry.events)
    (hreal : host.AdmitsUntil {.createStack} real.events) :
    Concord (validation.hosted host) (dry.hosted host) (real.hosted host) := by
  have hasks : ∀ m, m ∈ validation.methods ∨ m ∈ dry.methods → m ≠ .createStack := by
    rintro _ hm rfl
    exact h.asks _ hm rfl
  rw [Run.hosted_eq_self (hvalidation.admits fun m hm => hasks m (.inl hm)),
    Run.hosted_eq_self (hdry.admits fun m hm => hasks m (.inr hm))]
  obtain hadmits | ⟨before, e, after, f, hsplit, hbefore, he⟩ := host.admits_or_refuses real.events
  · rwa [Run.hosted_eq_self hadmits]
  -- the real run is cut short after its submission, so the validation found nothing wrong
  have hmem : Method.createStack ∈ Event.methods before := by
    obtain ⟨_, hm, rfl⟩ := hreal before e after hsplit (by rw [he]; exact Option.some_ne_none f)
    exact hm
  have hcut : before <+: real.events := ⟨e :: after, hsplit.symm⟩
  have hok : validation.outcome = .ok .success :=
    h.submits.mp (((hcut.filterMap Event.request?).map Request.method).subset hmem)
  rw [Run.hosted_of_refusal hsplit hbefore he]
  set cut : Run ExitStatus := ⟨.error f, before, real.world⟩
  have hbegins : validation.hushed.events <+: cut.hushed.events := by
    refine (List.prefix_or_prefix_of_prefix h.begins (hcut.filter _)).resolve_right fun hle => ?_
    change Method.createStack ∈ cut.methods at hmem
    rw [← cut.methods_hushed] at hmem
    have hle : cut.hushed.methods <+: validation.hushed.methods :=
      (hle.filterMap Event.request?).map Request.method
    exact hasks _ (.inl (validation.methods_hushed ▸ hle.subset hmem)) rfl
  have hlookups : cut.lookups = validation.lookups := by
    have hle : cut.lookups <+: real.lookups := hcut.filter _
    have hge : validation.lookups <+: cut.lookups := by
      rw [← validation.lookups_hushed, ← cut.lookups_hushed]
      exact hbegins.filter _
    rw [h.lookups.2] at hle
    exact hle.eq_of_length_le hge.length_le
  exact { h with
    begins := hbegins
    lookups := ⟨h.lookups.1, hlookups⟩
    submits := iff_of_true hmem hok
    stops := fun hfailed => absurd hok hfailed }

theorem Command.loaded_of_inputs {c : Command} {a : Arguments} {inputs : Inputs}
    (h : c.inputs env a = .ok inputs) :
    c.loaded files env a = .ok (Config.load files inputs.configPath) := by
  rw [loaded, h]
  rfl

theorem Command.loaded_eq_ok {c : Command} {a : Arguments} {cluster : Config}
    (h : c.loaded files env a = .ok (.ok cluster)) :
    ∃ inputs, c.inputs env a = .ok inputs ∧ Config.load files inputs.configPath = .ok cluster := by
  cases hinputs : c.inputs env a with
  | error e =>
    rw [loaded, hinputs] at h
    cases h
  | ok inputs =>
    rw [loaded_of_inputs hinputs] at h
    exact ⟨inputs, rfl, Except.ok.inj h⟩

section Host

variable {host : Host} {cluster : Config} {template : Path} {text line : String} {w : World}

theorem admitsUntil_validation (henv : filled (env "STACK_TEMPLATE") = none)
    (hascii : host.TakesAscii)
    (hlines : ∀ cluster, Command.validate.loaded files env { config, profile } = .ok (.ok cluster) →
      w.connection = none → host.untaken? (Command.validate.openings cluster) = none) :
    host.AdmitsUntil {.createStack}
      ((Command.validate.run files env { config, profile }).run w).events := by
  refine Command.admitsUntil_run hascii ?_ ?_
  · exact fun inputs hinputs _ => Inputs.templatePath_eq_none config profile henv hinputs
  · intro inputs cluster hinputs hload
    exact hlines cluster (hload ▸ Command.loaded_of_inputs hinputs)

theorem admitsUntil_provisioning (henv : filled (env "STACK_TEMPLATE") = none)
    (hascii : host.TakesAscii)
    (hlines : ∀ cluster, Command.validate.loaded files env { config, profile } = .ok (.ok cluster) →
      w.connection = none → host.untaken? (Command.provision.openings cluster) = none)
    (dryRun : Bool) :
    host.AdmitsUntil {.createStack} ((Command.provision.run files env
      { config, template := some template, profile, dryRun := some dryRun }).run w).events := by
  refine Command.admitsUntil_run hascii nofun ?_
  intro inputs cluster hinputs hload
  apply hlines cluster
  rw [← loaded_provision henv template dryRun, Command.loaded_of_inputs hinputs, hload]

theorem stopsAt_validation
    (hloaded : Command.validate.loaded files env { config, profile } = .ok (.ok cluster))
    (hconnection : w.connection = none)
    (hline : host.untaken? (Command.validate.openings cluster) = some line) :
    (((Command.validate.run files env { config, profile }).run w).hosted host).StopsAt line := by
  obtain ⟨inputs, hinputs, hload⟩ := Command.loaded_eq_ok hloaded
  have hopens : Command.validate.Opens files inputs w cluster := ⟨hload, nofun, hconnection⟩
  exact hopens.stopsAt hinputs hline

theorem stopsAt_provisioning (henv : filled (env "STACK_TEMPLATE") = none)
    (htemplate : readText files .template template = .ok text)
    (hloaded : Command.validate.loaded files env { config, profile } = .ok (.ok cluster))
    (hconnection : w.connection = none)
    (hline : host.untaken? (Command.provision.openings cluster) = some line) (dryRun : Bool) :
    (((Command.provision.run files env
      { config, template := some template, profile, dryRun := some dryRun }).run w).hosted
        host).StopsAt line := by
  obtain ⟨inputs, hinputs, hload⟩ := Command.loaded_eq_ok hloaded
  have hprovision : Command.provision.inputs env
      { config, template := some template, profile, dryRun := some dryRun } =
      .ok { inputs with templatePath := some template, dryRun := dryRun } := by
    rw [inputs_provision henv, hinputs, map_ok]
  have hopens : Command.provision.Opens files
      { inputs with templatePath := some template, dryRun := dryRun } w cluster :=
    ⟨hload, fun _ => ⟨template, text, rfl, htemplate⟩, hconnection⟩
  exact hopens.stopsAt hprovision hline

end Host

/-- In worlds that agree on the live state, both commands load the same configuration. In a host
that takes their first lines, what a validation finds is what a dry run and a real run find. A line
of them that the host does not take is the end of the command that writes it, so a validation goes
on where a dry run and a real run come to nothing. -/
theorem commands_agree (henv : filled (env "STACK_TEMPLATE") = none) {template : Path}
    {text : String} (htemplate : readText files .template template = .ok text) {v d r : World}
    (hd : v.Agree lookups d) (hr : v.Agree lookups r) {host : Host} (hascii : host.TakesAscii) :
    let validation := (Command.validate.run files env { config, profile }).run v
    let dry := (Command.provision.run files env
      { config, template := some template, profile, dryRun := some true }).run d
    let real := (Command.provision.run files env
      { config, template := some template, profile, dryRun := some false }).run r
    (∀ dryRun, Command.provision.loaded files env
        { config, template := some template, profile, dryRun := some dryRun } =
      Command.validate.loaded files env { config, profile }) ∧
    ((∀ c, Command.validate.loaded files env { config, profile } = .ok (.ok c) →
        v.connection = none → ∀ command : Command, host.untaken? (command.openings c) = none) →
      Concord (validation.hosted host) (dry.hosted host) (real.hosted host)) ∧
    ∀ c, Command.validate.loaded files env { config, profile } = .ok (.ok c) →
      v.connection = none →
      (host.untaken? (Command.validate.openings c) = none → validation.hosted host = validation) ∧
      (∀ line, host.untaken? (Command.validate.openings c) = some line →
        (validation.hosted host).StopsAt line) ∧
      ∀ line, host.untaken? (Command.provision.openings c) = some line →
        (dry.hosted host).StopsAt line ∧ (real.hosted host).StopsAt line := by
  intro validation dry real
  have hconcord : Concord validation dry real := concord_of_world_agree henv htemplate hd hr
  refine ⟨loaded_provision henv template, fun hlines => ?_, fun c hloaded hconnection => ?_⟩
  · refine hconcord.hosted ?_ ?_ ?_
    · exact admitsUntil_validation henv hascii fun c hc hw => hlines c hc hw .validate
    · exact admitsUntil_provisioning henv hascii
        (fun c hc hw => hlines c hc (hd.connection.trans hw) .provision) true
    · exact admitsUntil_provisioning henv hascii
        (fun c hc hw => hlines c hc (hr.connection.trans hw) .provision) false
  · refine ⟨fun hlines => ?_, fun line hline => ?_, fun line hline => ⟨?_, ?_⟩⟩
    · have hadmits : host.AdmitsUntil {.createStack} validation.events := by
        refine admitsUntil_validation henv hascii fun c' hc' _ => ?_
        cases hloaded.symm.trans hc'
        exact hlines
      refine Run.hosted_eq_self (hadmits.admits ?_)
      rintro _ hm rfl
      exact hconcord.asks _ (.inl hm) rfl
    · exact stopsAt_validation hloaded hconnection hline
    · exact stopsAt_provisioning henv htemplate hloaded (hd.connection ▸ hconnection) hline true
    · exact stopsAt_provisioning henv htemplate hloaded (hr.connection ▸ hconnection) hline false

def Files.pair : Files := fun path =>
  if path = Inputs.defaultConfig then
    .ok ("\x7b\"externalDNSName\":\"a.b\",\"keyName\":\"ops\",\"region\":\"here\"," ++
      "\"availabilityZone\":\"here-a\",\"clusterName\":\"blue\",\"kmsKeyArn\":\"arn\"\x7d").toUTF8
  else .ok "Resources".toUTF8

theorem toOption_eq_some {α ε : Type} {r : Except ε α} {a : α} (h : r.toOption = some a) :
    r = .ok a := by
  cases r with
  | error e => cases h
  | ok b => exact congrArg Except.ok (Option.some.inj h)

theorem commands_agree_pair :
    World.unwilling.Agree lookups World.failing ∧
      Method.createStack ∈ (((Command.provision.run Files.pair (fun _ => none)
        { template := some (Path.ofText "stack"), dryRun := some false }).run
        .failing).hosted .system).methods := by
  have hagree : World.unwilling.Agree lookups World.failing := by
    refine ⟨fun m hm => ?_, rfl⟩
    cases m with
    | createStack | describeStacks | describeStackEvents => exact absurd rfl hm
    | _ => rfl
  have hchecks : (((Command.validate.loaded Files.pair (fun _ => none) {}).toOption.bind
      Except.toOption).all fun c => [Command.validate, .provision].all fun command =>
        (Host.system.untaken? (command.openings c)).isNone) = true ∧
      (((Command.validate.run Files.pair (fun _ => none) {}).run .unwilling).hosted
        .system).outcome.toOption = some .success := by decide +kernel
  have hlines : ∀ c, Command.validate.loaded Files.pair (fun _ => none) {} = .ok (.ok c) →
      World.unwilling.connection = none →
      ∀ command : Command, Host.system.untaken? (command.openings c) = none := by
    intro c hc _ command
    have hnone := hchecks.1
    rw [hc] at hnone
    refine Option.isNone_iff_eq_none.mp (List.all_eq_true.mp hnone command ?_)
    cases command <;> decide
  have h := (@commands_agree Files.pair (fun _ => none) none none rfl (Path.ofText "stack") _ rfl
    _ _ _ (.refl _ _) hagree _ Host.takesAscii_system).2.1 hlines
  exact ⟨hagree, h.submits.mpr (toOption_eq_some hchecks.2)⟩

/-- A configuration that is valid, in which the network is named by a surrogate. -/
def Files.surrogate : Files := fun path =>
  if path = Inputs.defaultConfig then
    .ok ("\x7b\"externalDNSName\":\"a.b\",\"keyName\":\"ops\",\"region\":\"here\"," ++
      "\"availabilityZone\":\"here-a\",\"clusterName\":\"blue\",\"kmsKeyArn\":\"arn\"," ++
      "\"vpcId\":\"\\ud800\"\x7d").toUTF8
  else .ok "Resources".toUTF8

/-- UTF-8 has no code for the surrogate. The validation asks for the network and succeeds, and the
dry run breaks off before it asks anything. -/
theorem dry_run_breaks_off_surrogate :
    let validation := ((Command.validate.run Files.surrogate (fun _ => none) {}).run
      .unwilling).hosted .system
    let dry := ((Command.provision.run Files.surrogate (fun _ => none)
      { template := some (Path.ofText "stack"), dryRun := some true }).run
      .unwilling).hosted .system
    validation.outcome = .ok .success ∧
      validation.methods = [.describeVpcs, .describeSubnets, .describeSubnets, .describeKeyPairs] ∧
      dry.StopsAt ("  VPC: " ++ String.ofList (Text.ofCodePoint 0xd800)) := by
  intro validation dry
  have hchecks : validation.outcome.toOption = some .success ∧ validation.methods =
        [.describeVpcs, .describeSubnets, .describeSubnets, .describeKeyPairs] ∧
      ((Command.validate.loaded Files.surrogate (fun _ => none) {}).toOption.bind
        Except.toOption).bind (fun c => Host.system.untaken? (Command.provision.openings c)) =
          some ("  VPC: " ++ String.ofList (Text.ofCodePoint 0xd800)) := by
    decide +kernel
  obtain ⟨hpassed, hmethods, hline⟩ := hchecks
  refine ⟨toOption_eq_some hpassed, hmethods, ?_⟩
  obtain ⟨c, hloaded, hline⟩ := Option.bind_eq_some_iff.mp hline
  obtain ⟨o, ho, hc⟩ := Option.bind_eq_some_iff.mp hloaded
  have hloaded := (toOption_eq_some ho).trans (congrArg Except.ok (toOption_eq_some hc))
  exact @stopsAt_provisioning Files.surrogate (fun _ => none) none none _ c (Path.ofText "stack") _ _
    .unwilling rfl rfl hloaded rfl hline true

end ClusterLaunch
