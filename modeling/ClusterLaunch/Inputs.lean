import ClusterLaunch.Decimal.Reader
import ClusterLaunch.Stack.Polling
import ClusterLaunch.Text.Lowercase

/-! # Inputs

An input is what was given, or else the variable of the environment if it is not empty, or else a
default.
-/

namespace ClusterLaunch

abbrev Environment := String → Option String

inductive Input where
  | text (s : String)
  | path (p : Path)
  deriving DecidableEq, Repr

namespace Input

def toPath : Input → Path
  | text s => Path.ofText s
  | path p => p

def toText : Input → String
  | text s => s
  | path p => p.text

end Input

/-- Where an input comes from when it was not given. -/
structure InputSource where
  name : String
  fallback : Option Input := none
  required : Bool := false
  asPath : Bool := false
  deriving Repr

def InputSource.resolve (source : InputSource) (env : Environment) (given : Option Input) :
    Except InputError (Option Input) :=
  match given with
  | some input => .ok (some input)
  | none =>
    match (env source.name).filter (· ≠ "") with
    | some s => .ok (some (if source.asPath then .path (Path.ofText s) else .text s))
    | none => if source.required then .error (.missing source.name) else .ok source.fallback

/-- The words that switch something on. -/
def affirmatives : List String := ["true", "1", "yes", "on"]

def parseFlag (fallback : Bool) : Option String → Bool
  | none => fallback
  | some s => affirmatives.contains (String.ofList (Text.lower (Text.strip s.toList)))

/-- The double that a value stands for, as a number of seconds. A value that is none is named in
the message, unless it cannot be written out. -/
def secondsOf (name : String) (d : Data) : Except InputError Float :=
  match d.value with
  | .scalar (.text s) => match Decimal.ofText? s.toList with
    | some x => .ok x
    | none => .error (.notNumber name d.shown)
  | .scalar (.bytes bs) => match Decimal.ofBytes? bs with
    | some x => .ok x
    | none => .error (.notNumber name d.shown)
  | .scalar (.flag b) => .ok (if b then 1.0 else 0.0)
  | .scalar (.number x _) => .ok x
  | .scalar (.integer n) => match Decimal.ofInt? n with
    | some x => .ok x
    | none => .error .tooLarge
  | v => match d.heap.obstacle? v with
    | some o => .error (.unwritable o)
    | none => .error (.notNumber name d.shown)

/-- A number of seconds that is not zero or less. -/
def parseSeconds (name : String) (fallback : Float) (d : Data) : Except InputError Float :=
  match d.value with
  | .scalar .null => .ok fallback
  | _ => do
    let x ← secondsOf name d
    if x ≤ 0.0 then throw (.notPositive name d.shown) else return x

structure RawInputs where
  configPath : Option Path := none
  templatePath : Option Path := none
  profile : Option String := none
  pollInterval : Option String := none
  waitLimit : Option String := none
  dryRun : Option String := none
  deriving Repr

structure Inputs where
  configPath : Path
  templatePath : Option Path
  profile : Option String
  pollInterval : Float
  waitLimit : Float
  dryRun : Bool

namespace Inputs

def defaultConfig : Path := Path.ofText "cluster.yaml"

def textOf (env : Environment) (name : String) (given : Option String)
    (fallback : Option String) : Except InputError (Option String) :=
  (InputSource.resolve ⟨name, fallback.map .text, false, false⟩ env (given.map .text)).map
    fun input => input.map Input.toText

def pathOf (env : Environment) (name : String) (given : Option Path) (fallback : Option Path)
    (required : Bool) : Except InputError (Option Path) :=
  (InputSource.resolve ⟨name, fallback.map .path, required, true⟩ env (given.map .path)).map
    fun input => input.map Input.toPath

def secondsFrom (env : Environment) (name : String) (given : Option String) (fallback : Float) :
    Except InputError Float := do
  match ← textOf env name given (some (Decimal.text fallback)) with
  | some s => parseSeconds name fallback (.ofScalar (.text s))
  | none => return fallback

def resolve (env : Environment) (requireTemplate : Bool) (raw : RawInputs) :
    Except InputError Inputs := do
  let configPath ← pathOf env "CLUSTER_CONFIG" raw.configPath (some defaultConfig) false
  let templatePath ← pathOf env "STACK_TEMPLATE" raw.templatePath none requireTemplate
  let profile ← textOf env "AWS_PROFILE" raw.profile none
  let dryRun ← textOf env "DRY_RUN" raw.dryRun (some "false")
  let pollInterval ← secondsFrom env "STACK_POLL_INTERVAL" raw.pollInterval defaultInterval
  let waitLimit ← secondsFrom env "STACK_TIMEOUT" raw.waitLimit defaultLimit
  return {
    configPath := configPath.getD defaultConfig
    templatePath := templatePath
    profile := filled profile
    pollInterval := pollInterval
    waitLimit := waitLimit
    dryRun := parseFlag false (filled dryRun) }

end Inputs

end ClusterLaunch
