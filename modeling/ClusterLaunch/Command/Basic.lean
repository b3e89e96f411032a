import ClusterLaunch.Cloud.Session
import ClusterLaunch.Command.Arguments
import ClusterLaunch.Config.Reader
import ClusterLaunch.Inputs
import ClusterLaunch.Provision

/-! # The two commands

One checks a cluster, and its template if there is one. The other creates its stack. Inputs that
cannot be used break a command off before anything is done. A command ends with status 0 when all
went well, with 2 when a service could not be reached, and with 1 otherwise, and its failure is
reported in one line.
-/

namespace ClusterLaunch

open Session

inductive ExitStatus where
  | success
  | failure
  | transport
  deriving DecidableEq, Repr

def ExitStatus.code : ExitStatus → Nat
  | success => 0
  | failure => 1
  | transport => 2

namespace Failure

def exitStatus (e : Failure) : ExitStatus := if e.isTransport then .transport else .failure

def report (e : Failure) : String :=
  if e.isTransport then "error: AWS request failed: " ++ e.message else "error: " ++ e.message

end Failure

def reportFailure (e : Failure) : Session ExitStatus := do
  complain e.report
  return e.exitStatus

/-- Report the failure of a command, if it is of a kind that is reported. -/
def guarded (command : Session ExitStatus) : Session ExitStatus :=
  command.rescue fun e => if e.isReported then reportFailure e else fail e

def loadConfig (files : Files) (path : Path) : Session Config := do
  log .debug .configuration ("Loading cluster configuration from " ++ path.text)
  ofResult ((Config.load files path).mapError .config)

def readTemplate (files : Files) (path : Path) : Session String :=
  ofResult ((readText files .template path).mapError .config)

def resolveInputs (env : Environment) (requireTemplate : Bool) (raw : RawInputs) :
    Session Inputs :=
  ofResult ((Inputs.resolve env requireTemplate raw).mapError .input)

def checkTemplate (files : Files) : Option Path → Session Unit
  | none => return ()
  | some path => do
    let description ← validateTemplate (← readTemplate files path)
    print ("Stack template is valid: " ++ (if description = "" then path.text else description))

def validateCommand (files : Files) (env : Environment) (a : Arguments) : Session ExitStatus := do
  let inputs ← resolveInputs env false
    { configPath := a.config, templatePath := a.template, profile := a.profile }
  guarded do
    let config ← loadConfig files inputs.configPath
    connect (config.text .region) inputs.profile
    print (config.heading "Validating")
    preflight config
    checkTemplate files inputs.templatePath
    print "Cluster configuration is valid."
    return .success

def Arguments.raw (a : Arguments) : RawInputs where
  configPath := a.config
  templatePath := a.template
  profile := a.profile
  pollInterval := a.pollInterval
  waitLimit := a.timeout
  dryRun := a.dryRun.map fun b => if b then "True" else "False"

def provisionCommand (files : Files) (env : Environment) (a : Arguments) :
    Session ExitStatus := do
  let inputs ← resolveInputs env true a.raw
  guarded do
    let config ← loadConfig files inputs.configPath
    let template ← match inputs.templatePath with
      | some path => readTemplate files path
      | none => fail (.input (.missing "STACK_TEMPLATE"))
    connect (config.text .region) inputs.profile
    let result ← provision config
      ⟨template, inputs.dryRun, inputs.pollInterval, inputs.waitLimit⟩
    if result.success then
      print "\nCluster provisioning complete."
      return .success
    else return .failure

def Command.run (c : Command) (files : Files) (env : Environment) (a : Arguments) :
    Session ExitStatus :=
  match c with
  | .validate => validateCommand files env a
  | .provision => provisionCommand files env a

namespace Event

def output : Event → String
  | printed line => line ++ "\n"
  | _ => ""

/-- The line of a log record, after the time at which it was written. -/
def logLine (time : String) (r : LogRecord) : String :=
  time ++ " [" ++ r.level.name ++ "] " ++ r.origin.name ++ ": " ++ r.message

/-- The text that an event puts on the standard error stream. Log records are shown from a level
on. -/
def errors (time : String) (least : Level) : Event → String
  | complained line => line ++ "\n"
  | logged r => if least.rank ≤ r.level.rank then logLine time r ++ "\n" else ""
  | _ => ""

end Event

def Arguments.logLevel (a : Arguments) : Level := if a.verbose then .debug else .warning

end ClusterLaunch
