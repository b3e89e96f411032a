import ClusterLaunch.Value.Basic

/-! # Settings

The eighteen keys of a cluster configuration. Fifteen of them hold text.
-/

namespace ClusterLaunch

inductive TextSetting where
  | region
  | availabilityZone
  | clusterName
  | keyName
  | externalDNSName
  | kmsKeyArn
  | vpcCIDR
  | vpcId
  | instanceCIDR
  | controllerIP
  | routeTableId
  | podCIDR
  | serviceCIDR
  | dnsServiceIP
  | hostedZone
  deriving DecidableEq, Repr

namespace TextSetting

def all : List TextSetting :=
  [region, availabilityZone, clusterName, keyName, externalDNSName, kmsKeyArn, vpcCIDR, vpcId,
    instanceCIDR, controllerIP, routeTableId, podCIDR, serviceCIDR, dnsServiceIP, hostedZone]

theorem mem_all (s : TextSetting) : s ∈ all := by cases s <;> decide

def key : TextSetting → String
  | region => "region"
  | availabilityZone => "availabilityZone"
  | clusterName => "clusterName"
  | keyName => "keyName"
  | externalDNSName => "externalDNSName"
  | kmsKeyArn => "kmsKeyArn"
  | vpcCIDR => "vpcCIDR"
  | vpcId => "vpcId"
  | instanceCIDR => "instanceCIDR"
  | controllerIP => "controllerIP"
  | routeTableId => "routeTableId"
  | podCIDR => "podCIDR"
  | serviceCIDR => "serviceCIDR"
  | dnsServiceIP => "dnsServiceIP"
  | hostedZone => "hostedZone"

theorem key_injective {a b : TextSetting} (h : a.key = b.key) : a = b := by
  cases a <;> cases b <;> first | rfl | (revert h; decide)

/-- The text of a setting that a document leaves out. -/
def default : TextSetting → String
  | vpcCIDR => "10.0.0.0/16"
  | instanceCIDR => "10.0.0.0/24"
  | controllerIP => "10.0.0.50"
  | podCIDR => "10.2.0.0/16"
  | serviceCIDR => "10.3.0.0/24"
  | dnsServiceIP => "10.3.0.10"
  | _ => ""

/-- The settings that must not be empty, in the order in which they are checked. -/
def required : List TextSetting :=
  [externalDNSName, keyName, region, availabilityZone, clusterName, kmsKeyArn]

end TextSetting

inductive Setting where
  | text (s : TextSetting)
  | createRecordSet
  | recordSetTTL
  | stackTags
  deriving DecidableEq, Repr

namespace Setting

def key : Setting → String
  | text s => s.key
  | createRecordSet => "createRecordSet"
  | recordSetTTL => "recordSetTTL"
  | stackTags => "stackTags"

def all : List Setting := TextSetting.all.map text ++ [createRecordSet, recordSetTTL, stackTags]

def ofKey? (key : String) : Option Setting := all.find? (·.key == key)

end Setting

end ClusterLaunch
