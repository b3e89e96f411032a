/-! # Services

The three services that a cluster needs, and the methods by which they are asked.
-/

namespace ClusterLaunch

inductive Service where
  | ec2
  | route53
  | cloudformation
  deriving DecidableEq, Repr

namespace Service

def name : Service → String
  | ec2 => "ec2"
  | route53 => "route53"
  | cloudformation => "cloudformation"

/-- All services, in the order in which their clients are made. -/
def all : List Service := [ec2, route53, cloudformation]

end Service

inductive Method where
  | describeVpcs
  | describeSubnets
  | describeKeyPairs
  | listHostedZones
  | listRecordSets
  | createStack
  | describeStacks
  | describeStackEvents
  | validateTemplate
  deriving DecidableEq, Repr

def Method.name : Method → String
  | describeVpcs => "describe_vpcs"
  | describeSubnets => "describe_subnets"
  | describeKeyPairs => "describe_key_pairs"
  | listHostedZones => "list_hosted_zones_by_name"
  | listRecordSets => "list_resource_record_sets"
  | createStack => "create_stack"
  | describeStacks => "describe_stacks"
  | describeStackEvents => "describe_stack_events"
  | validateTemplate => "validate_template"

def Method.service : Method → Service
  | describeVpcs | describeSubnets | describeKeyPairs => .ec2
  | listHostedZones | listRecordSets => .route53
  | createStack | describeStacks | describeStackEvents | validateTemplate => .cloudformation

end ClusterLaunch
