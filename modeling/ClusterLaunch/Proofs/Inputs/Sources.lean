import ClusterLaunch.Inputs
import ClusterLaunch.Proofs.FirstFault

/-! # Where inputs come from

Each of the six inputs is what was given, or else its own variable of the environment unless that is
empty, or else its default. So an input depends on nothing else, and the inputs cannot be resolved
only if a template is missing or if a number of seconds cannot be used.
-/

namespace ClusterLaunch.Inputs

inductive Item where
  | configPath
  | templatePath
  | profile
  | pollInterval
  | waitLimit
  | dryRun
  deriving DecidableEq, Repr

namespace Item

def name : Item → String
  | configPath => "CLUSTER_CONFIG"
  | templatePath => "STACK_TEMPLATE"
  | profile => "AWS_PROFILE"
  | pollInterval => "STACK_POLL_INTERVAL"
  | waitLimit => "STACK_TIMEOUT"
  | dryRun => "DRY_RUN"

def isPath : Item → Bool
  | configPath | templatePath => true
  | _ => false

def ofVariable (item : Item) (s : String) : Input :=
  if item.isPath then .path (Path.ofText s) else .text s

def fallback : Item → Option Input
  | configPath => some (.path (Path.ofText "cluster.yaml"))
  | pollInterval => some (.text "3.0")
  | waitLimit => some (.text "1800.0")
  | dryRun => some (.text "false")
  | templatePath | profile => none

def given (raw : RawInputs) : Item → Option Input
  | configPath => raw.configPath.map .path
  | templatePath => raw.templatePath.map .path
  | profile => raw.profile.map .text
  | pollInterval => raw.pollInterval.map .text
  | waitLimit => raw.waitLimit.map .text
  | dryRun => raw.dryRun.map .text

/-- The input that is in effect: what was given, or else the variable unless it is empty, or else
the default. -/
def effective (env : Environment) (raw : RawInputs) (item : Item) : Option Input :=
  (item.given raw).or (((filled (env item.name)).map item.ofVariable).or item.fallback)

def IsDuration (item : Item) : Prop := item = pollInterval ∨ item = waitLimit

/-- A text writes a number of seconds that is not zero or less. -/
def Lasts (s : String) (x : Float) : Prop := Decimal.ofText? s.toList = some x ∧ ¬ x ≤ 0.0

/-- What an input in effect makes of the resolved inputs. -/
def Yields (input : Option Input) (inputs : Inputs) : Item → Prop
  | configPath => input.map Input.toPath = some inputs.configPath
  | templatePath => input.map Input.toPath = inputs.templatePath
  | profile => filled (input.map Input.toText) = inputs.profile
  | pollInterval => ∃ s, input = some (.text s) ∧ Lasts s inputs.pollInterval
  | waitLimit => ∃ s, input = some (.text s) ∧ Lasts s inputs.waitLimit
  | dryRun => parseFlag false (filled (input.map Input.toText)) = inputs.dryRun

def Agrees (a b : Inputs) : Item → Prop
  | configPath => a.configPath = b.configPath
  | templatePath => a.templatePath = b.templatePath
  | profile => a.profile = b.profile
  | pollInterval => a.pollInterval = b.pollInterval
  | waitLimit => a.waitLimit = b.waitLimit
  | dryRun => a.dryRun = b.dryRun

inductive Fault (env : Environment) (required : Bool) (raw : RawInputs) : Item → InputError → Prop
  | missing (hrequired : required = true) (h : effective env raw templatePath = none) :
      Fault env required raw templatePath (.missing templatePath.name)
  | notNumber {item : Item} {s : String} (hitem : item.IsDuration)
      (hs : effective env raw item = some (.text s)) (h : Decimal.ofText? s.toList = none) :
      Fault env required raw item (.notNumber item.name (Text.quoted s))
  | notPositive {item : Item} {s : String} {x : Float} (hitem : item.IsDuration)
      (hs : effective env raw item = some (.text s)) (h : Decimal.ofText? s.toList = some x)
      (hx : x ≤ 0.0) : Fault env required raw item (.notPositive item.name (Text.quoted s))

/-- The inputs that can have a fault, in the order in which they are looked at. -/
def checked : List Item := [templatePath, pollInterval, waitLimit]

end Item

open Item

variable {env : Environment} {required : Bool} {raw : RawInputs} {item : Item} {inputs : Inputs}
  {e : InputError}

def Item.source (required : Bool) (item : Item) : InputSource :=
  ⟨item.name, item.fallback, required, item.isPath⟩

theorem resolve_source (item : Item) (hrequired : required = true → item.fallback = none) :
    (item.source required).resolve env (item.given raw) =
      if required = true ∧ effective env raw item = none then .error (.missing item.name)
      else .ok (effective env raw item) := by
  have hfilled : (env item.name).filter (· ≠ "") = filled (env item.name) := rfl
  unfold effective InputSource.resolve
  cases item.given raw with
  | some input => simp
  | none =>
    dsimp only [Item.source]
    rw [hfilled]
    cases filled (env item.name) with
    | some s => exact (if_neg (by simp)).symm
    | none =>
      cases required with
      | true => simp [hrequired rfl]
      | false => simp

theorem resolve_optional (item : Item) :
    (item.source false).resolve env (item.given raw) = .ok (effective env raw item) :=
  (resolve_source item (by simp)).trans (if_neg (by simp))

theorem exists_effective (env : Environment) (raw : RawInputs) (h : item.IsDuration) :
    ∃ s, effective env raw item = some (.text s) := by
  have htext : ∀ (given : Option String) (s t : String), ∃ u,
      (given.map Input.text).or (((filled (env s)).map Input.text).or (some (.text t))) =
        some (.text u) := by
    intro given s t
    cases given with
    | some g => exact ⟨g, rfl⟩
    | none =>
      cases filled (env s) with
      | some v => exact ⟨v, rfl⟩
      | none => exact ⟨t, rfl⟩
  obtain rfl | rfl := h
  · exact htext raw.pollInterval _ _
  · exact htext raw.waitLimit _ _

/-- A text is read as a number of seconds without regard to the default. -/
theorem parseSeconds_text (name : String) (fallback : Float) (s : String) :
    parseSeconds name fallback (.ofScalar (.text s)) =
      match Decimal.ofText? s.toList with
      | none => .error (.notNumber name (Text.quoted s))
      | some x => if x ≤ 0.0 then .error (.notPositive name (Text.quoted s)) else .ok x := by
  have hshown : (Data.ofScalar (.text s)).shown = Text.quoted s := rfl
  unfold parseSeconds secondsOf
  rw [hshown]
  dsimp only [Data.ofScalar]
  cases Decimal.ofText? s.toList with
  | none => rfl
  | some x => rfl

theorem parseSeconds_text_eq_ok_iff {name : String} {fallback : Float} {s : String} {x : Float} :
    parseSeconds name fallback (.ofScalar (.text s)) = .ok x ↔ Lasts s x := by
  rw [parseSeconds_text, Lasts]
  cases Decimal.ofText? s.toList with
  | none => exact iff_of_false nofun (fun h => nomatch h.1)
  | some y =>
    dsimp only
    rw [guard_eq_ok_iff, Option.some_inj, Except.ok.injEq]
    constructor
    · rintro ⟨hy, rfl⟩
      exact ⟨rfl, hy⟩
    · rintro ⟨rfl, hy⟩
      exact ⟨hy, rfl⟩

theorem parseSeconds_text_eq_error_iff {fallback : Float} {s : String} (hitem : item.IsDuration)
    (hs : effective env raw item = some (.text s)) :
    parseSeconds item.name fallback (.ofScalar (.text s)) = .error e ↔
      Fault env required raw item e := by
  rw [parseSeconds_text]
  constructor
  · intro h
    cases hx : Decimal.ofText? s.toList with
    | none =>
      rw [hx] at h
      cases h
      exact .notNumber hitem hs hx
    | some x =>
      rw [hx] at h
      dsimp only at h
      split at h
      · rename_i hle
        cases h
        exact .notPositive hitem hs hx hle
      · cases h
  · intro h
    cases h with
    | missing => simp [IsDuration] at hitem
    | notNumber _ ht hx =>
      cases hs.symm.trans ht
      rw [hx]
    | notPositive _ ht hx hle =>
      cases hs.symm.trans ht
      rw [hx]
      exact if_pos hle

theorem text_defaultInterval : Decimal.text defaultInterval = "3.0" := rfl

theorem text_defaultLimit : Decimal.text defaultLimit = "1800.0" := rfl

/-- What is resolved depends on the inputs in effect alone. -/
theorem resolve_eq {interval limit : String}
    (hinterval : effective env raw .pollInterval = some (.text interval))
    (hlimit : effective env raw .waitLimit = some (.text limit)) :
    resolve env required raw =
      (if required = true ∧ effective env raw .templatePath = none then
          .error (.missing (name .templatePath))
        else do
          let x ← parseSeconds (name .pollInterval) defaultInterval (.ofScalar (.text interval))
          let y ← parseSeconds (name .waitLimit) defaultLimit (.ofScalar (.text limit))
          return {
            configPath := ((effective env raw .configPath).map Input.toPath).getD defaultConfig
            templatePath := (effective env raw .templatePath).map Input.toPath
            profile := filled ((effective env raw .profile).map Input.toText)
            pollInterval := x
            waitLimit := y
            dryRun :=
              parseFlag false (filled ((effective env raw .dryRun).map Input.toText)) }) := by
  have hconfig : pathOf env "CLUSTER_CONFIG" raw.configPath (some defaultConfig) false =
      .ok ((effective env raw .configPath).map Input.toPath) :=
    congrArg (Except.map (Option.map Input.toPath)) (resolve_optional .configPath)
  have htemplate : pathOf env "STACK_TEMPLATE" raw.templatePath none required =
      (if required = true ∧ effective env raw .templatePath = none then
        Except.error (.missing (name .templatePath))
      else .ok (effective env raw .templatePath)).map (Option.map Input.toPath) :=
    congrArg (Except.map (Option.map Input.toPath))
      (resolve_source .templatePath fun _ => rfl)
  have hprofile : textOf env "AWS_PROFILE" raw.profile none =
      .ok ((effective env raw .profile).map Input.toText) :=
    congrArg (Except.map (Option.map Input.toText)) (resolve_optional .profile)
  have hdry : textOf env "DRY_RUN" raw.dryRun (some "false") =
      .ok ((effective env raw .dryRun).map Input.toText) :=
    congrArg (Except.map (Option.map Input.toText)) (resolve_optional .dryRun)
  have hfirst : textOf env "STACK_POLL_INTERVAL" raw.pollInterval
      (some (Decimal.text defaultInterval)) = .ok (some interval) := by
    rw [text_defaultInterval]
    exact (congrArg (Except.map (Option.map Input.toText)) (resolve_optional .pollInterval)).trans
      (by rw [hinterval]; rfl)
  have hsecond : textOf env "STACK_TIMEOUT" raw.waitLimit (some (Decimal.text defaultLimit)) =
      .ok (some limit) := by
    rw [text_defaultLimit]
    exact (congrArg (Except.map (Option.map Input.toText)) (resolve_optional .waitLimit)).trans
      (by rw [hlimit]; rfl)
  rw [resolve, secondsFrom, secondsFrom, hconfig, htemplate, hprofile, hdry, hfirst, hsecond]
  split
  · rfl
  · rfl

theorem exists_effective_configPath (env : Environment) (raw : RawInputs) :
    ∃ input, effective env raw .configPath = some input := by
  unfold effective
  cases given raw .configPath with
  | some input => exact ⟨input, rfl⟩
  | none => cases filled (env (name .configPath)) with
    | some s => exact ⟨_, rfl⟩
    | none => exact ⟨_, rfl⟩

theorem resolve_eq_ok_iff : resolve env required raw = .ok inputs ↔
    (required = true → effective env raw .templatePath ≠ none) ∧
      ∀ item, Yields (effective env raw item) inputs item := by
  obtain ⟨interval, hinterval⟩ := exists_effective env raw (.inl rfl)
  obtain ⟨limit, hlimit⟩ := exists_effective env raw (.inr rfl)
  obtain ⟨config, hconfig⟩ := exists_effective_configPath env raw
  rw [resolve_eq hinterval hlimit, guard_eq_ok_iff, not_and]
  refine and_congr_right fun _ => ?_
  simp only [bind_eq_ok_iff, parseSeconds_text_eq_ok_iff, hconfig, Option.map_some,
    Option.getD_some]
  constructor
  · rintro ⟨x, hx, y, hy, h⟩ item
    cases h
    cases item with
    | configPath => rw [hconfig]; rfl
    | templatePath => rfl
    | profile => rfl
    | pollInterval => exact ⟨interval, hinterval, hx⟩
    | waitLimit => exact ⟨limit, hlimit, hy⟩
    | dryRun => rfl
  · intro h
    obtain ⟨_, hs, hx⟩ := h .pollInterval
    cases hinterval.symm.trans hs
    obtain ⟨_, ht, hy⟩ := h .waitLimit
    cases hlimit.symm.trans ht
    refine ⟨_, hx, _, hy, ?_⟩
    have hpath := h .configPath
    have htemplate := h .templatePath
    have hprofile := h .profile
    have hdry := h .dryRun
    dsimp only [Yields] at hpath htemplate hprofile hdry
    rw [hconfig, Option.map_some, Option.some_inj] at hpath
    rw [htemplate, hprofile, hdry, hpath]
    rfl

theorem fault_templatePath_iff : Fault env required raw .templatePath e ↔
    (required = true ∧ effective env raw .templatePath = none) ∧
      e = .missing (name .templatePath) := by
  constructor
  · intro h
    cases h with
    | missing hrequired hnone => exact ⟨⟨hrequired, hnone⟩, rfl⟩
    | notNumber hitem => simp [IsDuration] at hitem
    | notPositive hitem => simp [IsDuration] at hitem
  · rintro ⟨⟨hrequired, hnone⟩, rfl⟩
    exact .missing hrequired hnone

/-- The faults are looked for in the order template, interval, limit. -/
theorem resolve_eq_error_iff :
    resolve env required raw = .error e ↔ FirstFault (Fault env required raw) checked e := by
  obtain ⟨interval, hinterval⟩ := exists_effective env raw (.inl rfl)
  obtain ⟨limit, hlimit⟩ := exists_effective env raw (.inr rfl)
  rw [resolve_eq hinterval hlimit]
  refine guard_firstFault_iff (fun _ => fault_templatePath_iff) <| bind_firstFault_iff
    (fun _ => parseSeconds_text_eq_error_iff (.inl rfl) hinterval) fun _ _ _ => bind_firstFault_iff
      (fun _ => parseSeconds_text_eq_error_iff (.inr rfl) hlimit) fun _ _ _ => ?_
  exact iff_of_false nofun not_firstFault_nil

theorem Item.Fault.mem_checked (h : Fault env required raw item e) : item ∈ checked := by
  cases h with
  | missing => exact List.mem_cons_self
  | notNumber hitem | notPositive hitem => obtain rfl | rfl := hitem <;> simp [checked]

/-- A fault is told to the user, by the name of the variable. -/
theorem Item.Fault.names (h : Fault env required raw item e) :
    e ≠ .tooLarge ∧ item.name.toList <+: e.message.toList := by
  cases h with
  | missing => exact ⟨nofun, by simp [InputError.message]⟩
  | notNumber | notPositive =>
    exact ⟨nofun, by simp [InputError.message, List.append_assoc]⟩

theorem Item.Yields.agrees {input : Option Input} {a b : Inputs} (ha : Yields input a item)
    (hb : Yields input b item) : Agrees a b item := by
  have hlasts : ∀ {x y : Float}, (∃ s, input = some (.text s) ∧ Lasts s x) →
      (∃ s, input = some (.text s) ∧ Lasts s y) → x = y := by
    rintro x y ⟨s, rfl, hx, -⟩ ⟨t, ht, hy, -⟩
    cases ht
    exact Option.some_inj.mp (hx.symm.trans hy)
  cases item with
  | configPath => exact Option.some_inj.mp (ha.symm.trans hb)
  | templatePath => exact ha.symm.trans hb
  | profile => exact ha.symm.trans hb
  | pollInterval => exact hlasts ha hb
  | waitLimit => exact hlasts ha hb
  | dryRun => exact ha.symm.trans hb

theorem resolve_congr {env' : Environment}
    (h : ∀ item, effective env' raw item = effective env raw item) :
    resolve env' required raw = resolve env required raw := by
  obtain ⟨interval, hinterval⟩ := exists_effective env raw (.inl rfl)
  obtain ⟨limit, hlimit⟩ := exists_effective env raw (.inr rfl)
  rw [resolve_eq hinterval hlimit, resolve_eq ((h _).trans hinterval) ((h _).trans hlimit), h, h, h,
    h]

/-- The first environment is the second without some variables that are empty or that no input
has. -/
def Prunes (env' env : Environment) : Prop :=
  ∀ s, env' s = env s ∨ env' s = none ∧ (env s = some "" ∨ ∀ item : Item, item.name ≠ s)

theorem Prunes.resolve_eq {env' : Environment} (h : Prunes env' env) :
    resolve env' required raw = resolve env required raw := by
  refine resolve_congr fun item => ?_
  have hfilled : filled (env' item.name) = filled (env item.name) := by
    obtain heq | ⟨hnone, hempty | hother⟩ := h item.name
    · rw [heq]
    · rw [hnone, hempty]
      rfl
    · exact absurd rfl (hother item)
  rw [effective, effective, hfilled]

/-- An input is what was given for it, or else its own variable unless that is empty, or else its
default. No other input and no other variable has a say in it, and the only faults are that of the
template and those of the two durations. -/
theorem resolve_by_source (env : Environment) (required : Bool) (raw : RawInputs) :
    (∀ inputs, resolve env required raw = .ok inputs ↔
      (required = true → effective env raw .templatePath ≠ none) ∧
        ∀ item, Yields (effective env raw item) inputs item) ∧
    (∀ e, resolve env required raw = .error e ↔ FirstFault (Fault env required raw) checked e) ∧
    ((∃ e, resolve env required raw = .error e) ↔ ∃ item e, Fault env required raw item e) ∧
    (∀ item e, Fault env required raw item e →
      e ≠ .tooLarge ∧ item.name.toList <+: e.message.toList) ∧
    (∀ env' required' raw' a b, resolve env required raw = .ok a →
      resolve env' required' raw' = .ok b → ∀ item : Item, item.given raw = item.given raw' →
        env item.name = env' item.name → Agrees a b item) ∧
    ∀ env', Prunes env' env → resolve env' required raw = resolve env required raw := by
  refine ⟨fun _ => resolve_eq_ok_iff, fun _ => resolve_eq_error_iff, ?_, fun _ _ h => h.names, ?_,
    fun _ h => h.resolve_eq⟩
  · simp only [resolve_eq_error_iff, exists_firstFault_iff]
    constructor
    · rintro ⟨item, -, e, h⟩
      exact ⟨item, e, h⟩
    · rintro ⟨item, e, h⟩
      exact ⟨item, h.mem_checked, e, h⟩
  · intro env' required' raw' a b ha hb item hgiven hname
    have hsame : effective env raw item = effective env' raw' item := by
      rw [effective, effective, hgiven, hname]
    have hyields := (resolve_eq_ok_iff.mp hb).2 item
    rw [← hsame] at hyields
    exact ((resolve_eq_ok_iff.mp ha).2 item).agrees hyields

/-- A missing template comes before an interval that is no number, with or without an empty
variable. -/
theorem resolve_by_source_missing :
    resolve (fun s => if s = "STACK_TIMEOUT" then some "" else none) true
        ⟨none, none, none, some "soon", none, none⟩ = .error (.missing "STACK_TEMPLATE") ∧
      resolve (fun _ => none) true ⟨none, none, none, some "soon", none, none⟩ =
        resolve (fun s => if s = "STACK_TIMEOUT" then some "" else none) true
          ⟨none, none, none, some "soon", none, none⟩ := by
  obtain ⟨-, herror, -, -, -, hprunes⟩ := resolve_by_source
    (fun s => if s = "STACK_TIMEOUT" then some "" else none) true
    ⟨none, none, none, some "soon", none, none⟩
  refine ⟨(herror _).mpr (firstFault_cons_iff.mpr (.inl (.missing rfl ?_))), hprunes _ fun s => ?_⟩
  · rfl
  · by_cases hs : s = "STACK_TIMEOUT"
    · exact .inr ⟨rfl, .inl (if_pos hs)⟩
    · exact .inl (if_neg hs).symm

end ClusterLaunch.Inputs
