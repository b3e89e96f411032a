import ClusterLaunch.Cloud.Session
import ClusterLaunch.Config.Basic
import ClusterLaunch.Config.Reader
import ClusterLaunch.Preflight.HostedZone

/-! # Preflight

The checks against the live state, in the order network, key pair, zone. A cluster that goes into an
existing network must declare the block of that network as it is reported, and its own block must
share no address with a subnet that is there. The key pair of the instances must be among those that
the service reports.
-/

namespace ClusterLaunch

open Session

/-- The codes of a rejection that mean that there is no such key pair. -/
def keyPairAbsentCodes : List String := ["InvalidKeyPair.NotFound"]

def checkKeyPair (config : Config) : Session Unit := do
  let name := config.text .keyName
  let absent : Failure := .preflight (.keyPairNotFound name (config.text .region))
  log .info .identity ("Validating key pair " ++ name ++ " in " ++ config.text .region)
  let names : List (Option String) ←
    (ask (.describeKeyPairs name)).reword keyPairAbsentCodes absent
  if some name ∈ names then return () else fail absent

/-- The blocks of a network and of its subnets, in the words of the service. -/
structure NetworkState where
  vpcId : String
  block : String
  subnets : List String
  deriving DecidableEq, Repr

namespace NetworkState

/-- The codes of a rejection that mean that there is no such network. -/
def absentCodes : List String := ["InvalidVpcID.NotFound", "InvalidVpcID.Malformed"]

def describeVpc (id region : String) : Session ReportedVpc := do
  let absent : Failure := .preflight (.vpcNotFound id region)
  let vpcs : List ReportedVpc ← (ask (.describeVpcs id)).reword absentCodes absent
  match vpcs with
  | [] => fail absent
  | [vpc] => return vpc
  | vpcs => fail (.preflight (.manyVpcs vpcs.length id))

/-- One page of subnets. Subnets without a block are noted in the log. -/
def fetchSubnets (vpc : String) (token : Option String) : Session SubnetPage := do
  let page : SubnetPage ← ask (.describeSubnets vpc token)
  (page.subnets.filter fun s => (filled s.block).isNone).forM fun s =>
    log .debug .network
      ("Skipping subnet " ++ s.id.textOr "<unknown>" ++ " without an IPv4 CIDR block")
  return page

def nextSubnets (page : SubnetPage) : Option (Option String) := (filled page.nextToken).map some

def blocksOf (page : SubnetPage) : List String := page.subnets.filterMap fun s => filled s.block

def subnetBlocks (vpc : String) : Session (List String) := do
  let pages ← allPages .describeSubnets (fetchSubnets vpc) (fun _ page => nextSubnets page) none
  return pages.flatMap blocksOf

def fetch (id region : String) : Session NetworkState := do
  let vpc ← describeVpc id region
  match filled vpc.block with
  | none => fail (.preflight (.vpcWithoutBlock id))
  | some block =>
    let subnets ← subnetBlocks ((filled vpc.id).getD id)
    return ⟨id, block, subnets⟩

/-- The first subnet that is malformed or meets a block is a fault. -/
def checkSubnets (inst : Network.Block) : List String → Except Failure Unit
  | [] => .ok ()
  | subnet :: rest =>
    match Network.Block.read subnet with
    | .error e => .error (.config (.format e))
    | .ok block =>
      if inst.overlaps block then .error (.preflight (.subnetOverlap inst subnet))
      else checkSubnets inst rest

def check (config : Config) (state : NetworkState) : Except Failure Unit := do
  if config.text .vpcCIDR ≠ state.block then
    throw (.preflight (.blockMismatch (config.text .vpcCIDR) state.block))
  let inst ← (config.block .instanceCIDR).mapError .config
  checkSubnets inst state.subnets

end NetworkState

/-- Check the network of a cluster if it exists already. -/
def checkVpc (config : Config) : Session Unit := do
  let id := config.text .vpcId
  if id = "" then
    log .debug .network "No vpcId configured; a new VPC will be created"
  else
    log .info .network ("Validating existing VPC " ++ id)
    let state ← NetworkState.fetch id (config.text .region)
    ofResult (NetworkState.check config state)

/-- Run all checks. The first that fails ends the run. -/
def preflight (config : Config) : Session Unit := do
  checkVpc config
  checkKeyPair config
  checkHostedZone config
  Session.log .info .preflight
    ("Preflight checks passed for cluster " ++ config.text .clusterName)

end ClusterLaunch
