import ClusterLaunch.Cloud.Session
import ClusterLaunch.Config.Basic
import ClusterLaunch.Preflight.Basic
import ClusterLaunch.Stack.Events
import ClusterLaunch.Stack.Polling

/-! # Provisioning

Preflight, submission, waiting, and the report of the causes when the stack failed. A dry run ends
after the preflight. The stack has the name of the cluster, a template and one tag for each tag of
the configuration, and its resources are left in place when it fails.
-/

namespace ClusterLaunch

open Session

def StackTag.ofPairs (pairs : List (String × String)) : List StackTag :=
  pairs.map fun (key, value) => ⟨key, value⟩

def Submission.ofConfig (config : Config) (template : String) : Submission where
  name := config.text .clusterName
  template := template
  onFailure := "DO_NOTHING"
  capabilities := ["CAPABILITY_IAM"]
  tags := StackTag.ofPairs config.stackTags

/-- Submit the stack of a cluster. The result is its identifier, or its name if none is given. -/
def createStack (config : Config) (template : String) : Session String := do
  let submission := Submission.ofConfig config template
  log .info .orchestration ("Creating stack " ++ submission.name ++ " in " ++
    config.text .region ++ " with " ++ toString submission.tags.length ++ " tag(s)")
  let id : Option String ← ask (.createStack submission)
  return (filled id).getD submission.name

/-- Have a template checked. The result is its description. -/
def validateTemplate (template : String) : Session String := do
  let summary : TemplateSummary ← ask (.validateTemplate template)
  if !summary.capabilities.isEmpty then
    log .info .orchestration
      ("Template requires capabilities: " ++ ", ".intercalate summary.capabilities)
  return summary.description.getD ""

structure ProvisionResult where
  success : Bool
  stackId : Option String := none
  status : Option StackStatus := none
  failureMessages : List String := []
  deriving DecidableEq, Repr

structure ProvisionPlan where
  template : String
  dryRun : Bool := false
  pollInterval : Float := defaultInterval
  waitLimit : Float := defaultLimit

/-- The line that says what is done with a cluster. -/
def Config.heading (config : Config) (doing : String) : String :=
  doing ++ " cluster '" ++ config.text .clusterName ++ "' in " ++ config.text .region ++ "..."

def Config.networkLine (config : Config) : String :=
  let vpc := config.text .vpcId
  "  VPC: " ++ (if vpc = "" then "new" else vpc)

def announce (config : Config) (plan : ProvisionPlan) : Session Unit := do
  print (config.heading "Provisioning")
  print config.networkLine
  print ("  Stack tags: " ++ toString config.stackTags.length)
  print ("  Dry run: " ++ (if plan.dryRun then "True" else "False"))

def reportCauses (status : StackStatus) (messages : List String) : Session Unit := do
  complain ("error: stack creation failed: " ++ status.detail)
  if !messages.isEmpty then
    complain "\nPrinting the most recent failed stack events:"
    messages.forM complain

def launch (config : Config) (plan : ProvisionPlan) : Session ProvisionResult := do
  print "\n--- Creating stack ---"
  let id ← createStack config plan.template
  print ("Stack submitted: " ++ id)
  print "\n--- Waiting for stack ---"
  let status ← waitForStack id plan.pollInterval plan.waitLimit
  if status.isSuccess then
    print ("Stack " ++ id ++ " reached " ++ status.status)
    return ⟨true, some id, some status, []⟩
  else
    let messages ← describeFailure id
    reportCauses status messages
    return ⟨false, some id, some status, messages⟩

/-- Check a cluster against the live state and, unless this is a dry run, create its stack. -/
def provision (config : Config) (plan : ProvisionPlan) : Session ProvisionResult := do
  announce config plan
  print "\n--- Running preflight checks ---"
  preflight config
  print "Preflight checks passed."
  if plan.dryRun then
    print "\nDry run mode - skipping stack creation"
    return ⟨true, none, none, []⟩
  else
    launch config plan

end ClusterLaunch
