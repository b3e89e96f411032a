import ClusterLaunch.Config.Basic
import ClusterLaunch.Yaml.Meaning

/-! # From a file to a configuration

A configuration is read, built and checked. The checks need no service: required settings, the
record set, and the layout of the networks. The instances lie in the network of the cluster, which
shares no address with the networks of pods and services. A document without content describes the
defaults.
-/

namespace ClusterLaunch.Config

open Network

def block (c : Config) (s : TextSetting) : Except ConfigError Block :=
  (Block.read (c.text s)).mapError .format

def address (c : Config) (s : TextSetting) : Except ConfigError Address :=
  (Address.read (c.text s)).mapError .format

def checkRequired (c : Config) : Except ConfigError Unit :=
  match TextSetting.required.find? fun s => c.text s = "" with
  | some s => .error (.unset s)
  | none => .ok ()

/-- The record set has a zone and a lifetime if it is to be made, and the default one if not. -/
def checkRecordSet (c : Config) : Except ConfigError Unit :=
  if c.createRecordSet then
    if c.text .hostedZone = "" then .error .noZone
    else if c.recordSetTTL < 1 then .error .shortLifetime
    else .ok ()
  else if c.recordSetTTL ≠ defaultLifetime then .error .changedLifetime
  else .ok ()

def checkApart (a : TextSetting) (blockA : Block) (b : TextSetting) (blockB : Block) :
    Except ConfigError Unit :=
  if blockA.overlaps blockB then .error (.overlapping a blockA b blockB) else .ok ()

def checkNetwork (c : Config) : Except ConfigError Unit := do
  if c.text .routeTableId ≠ "" && c.text .vpcId = "" then throw .noVpc
  let vpc ← c.block .vpcCIDR
  let inst ← c.block .instanceCIDR
  if !vpc.contains inst then throw (.instanceOutside vpc inst)
  let controller ← c.address .controllerIP
  if !inst.holds controller then throw (.controllerOutside inst controller)
  let pod ← c.block .podCIDR
  let service ← c.block .serviceCIDR
  checkApart .vpcCIDR vpc .podCIDR pod
  checkApart .vpcCIDR vpc .serviceCIDR service
  checkApart .podCIDR pod .serviceCIDR service
  let resolver ← c.address .dnsServiceIP
  if !service.holds resolver then throw (.resolverOutside service (c.text .dnsServiceIP))

/-- Check a configuration. The first fault is reported. -/
def check (c : Config) : Except ConfigError Unit := do
  c.checkRequired
  c.checkRecordSet
  c.checkNetwork

end ClusterLaunch.Config

namespace ClusterLaunch

def readText (files : Files) (document : Document) (path : Path) : Except ConfigError String :=
  match files path with
  | .error cause => .error (.unreadable document path cause)
  | .ok bytes => match textOfBytes? bytes with
    | some text => .ok text
    | none => .error .notUtf8

namespace Config

/-- Build a configuration from the text of a document, without checking it. A text without a
document describes the defaults. -/
def parse (text : String) (i : Yaml.Interpreter := {}) : Except ConfigError Config := do
  match ← (Yaml.read text i).mapError .yaml with
  | some d => ofData d
  | none => return initial

def checked (c : Config) : Except ConfigError Config := do
  c.check
  return c

def load (files : Files) (path : Path) (i : Yaml.Interpreter := {}) :
    Except ConfigError Config := do
  (← parse (← readText files .configuration path) i).checked

end Config

end ClusterLaunch
