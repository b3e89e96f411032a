import ClusterLaunch.Cloud.Rejection
import ClusterLaunch.Cloud.Service
import ClusterLaunch.Config.Error
import ClusterLaunch.Decimal.Layout
import ClusterLaunch.Network.Reader

/-! # Failures

Everything that can end a run: faults of the configuration, of the live state, of a stack and of the
inputs, requests that a service turns down, a service that cannot be reached, and a host that
refuses what a run does.
-/

namespace ClusterLaunch

inductive StackError where
  | notFound (handle : String)
  | timeout (handle status : String) (limit : Float)

def StackError.message : StackError → String
  | notFound handle => "stack " ++ handle ++ " not found"
  | timeout handle status limit =>
    "stack " ++ handle ++ " still " ++ status ++ " after " ++ Decimal.briefText limit ++ "s"

/-- A check against the live state that does not hold. -/
inductive PreflightError where
  | vpcNotFound (id region : String)
  | manyVpcs (count : Nat) (id : String)
  | vpcWithoutBlock (id : String)
  | blockMismatch (configured actual : String)
  | subnetOverlap (inst : Network.Block) (subnet : String)
  | keyPairNotFound (name region : String)
  | zoneNotFound (zone : String)
  | recordTaken (name zone : String)
  deriving DecidableEq

def PreflightError.message : PreflightError → String
  | vpcNotFound id region => "could not find vpc " ++ id ++ " in region " ++ region
  | manyVpcs count id =>
    "found " ++ toString count ++ " vpcs with id " ++ id ++ "; expected exactly one"
  | vpcWithoutBlock id => "vpc " ++ id ++ " reported no IPv4 CIDR block"
  | blockMismatch configured actual =>
    "configured vpcCIDR (" ++ configured ++ ") does not match actual existing vpc cidr (" ++
      actual ++ ")"
  | subnetOverlap inst subnet =>
    "instance cidr (" ++ toString inst ++ ") conflicts with existing subnet cidr=" ++ subnet
  | keyPairNotFound name region =>
    "key pair " ++ Text.quoted name ++ " does not exist in " ++ region
  | zoneNotFound zone => "hosted zone " ++ zone ++ " does not exist"
  | recordTaken name zone =>
    "RecordSet for " ++ Text.quoted name ++ " already exists in hosted zone " ++ Text.quoted zone

inductive InputError where
  | missing (name : String)
  | notNumber (name shown : String)
  | notPositive (name shown : String)
  /-- An integer beyond the largest double. -/
  | tooLarge
  /-- A value that is no number and cannot be written out in the message. -/
  | unwritable (o : Obstacle)
  deriving DecidableEq, Repr

def InputError.message : InputError → String
  | missing name => name ++ " is required"
  | notNumber name shown => name ++ " must be a number of seconds, got: " ++ shown
  | notPositive name shown => name ++ " must be positive, got: " ++ shown
  | tooLarge => "integer too large"
  | unwritable .digits => "integer too long"
  | unwritable .depth => "collections nested too deep"

/-- The kinds of failure that the tools report in one line, apart from those of the services. -/
inductive Family where
  | preflight
  | clusterConfig
  | networkFormat
  | networkNotFound
  | blockMismatch
  | subnetOverlap
  | keyPairNotFound
  | zoneNotFound
  | recordConflict
  | orchestration
  | stackNotFound
  | waitTimeout
  deriving DecidableEq, Repr

/-- What ends a run. -/
inductive Failure where
  | config (e : ConfigError)
  | preflight (e : PreflightError)
  | stack (e : StackError)
  | rejected (r : Rejection)
  | disrupted (d : Disruption)
  /-- A service could not be asked, for a reason of any other kind and in its words. -/
  | unreached (message : String)
  /-- A failure of a known kind in the words of a service. -/
  | quoted (family : Family) (message : String)
  /-- A failure of no known kind. -/
  | other (message : String)
  /-- A service has no further answers. -/
  | exhausted (m : Method)
  | input (e : InputError)
  /-- The standard output does not take a line. -/
  | unencodable (line : String)
  /-- The clock cannot make a pause. -/
  | unwaitable (seconds : Float)

namespace Failure

def message : Failure → String
  | config e => e.message
  | preflight e => e.message
  | stack e => e.message
  | rejected r => r.message
  | disrupted d => d.message
  | unreached message => message
  | quoted _ message => message
  | other message => message
  | exhausted m => "no scripted response left for " ++ m.name
  | input e => e.message
  | unencodable _ => "a line cannot be encoded"
  | unwaitable _ => "a pause is out of range"

end Failure

/-- The family of a configuration fault. Text that cannot be decoded, paths that name no file and
single values without meaning belong to none. -/
def ConfigError.family? : ConfigError → Option Family
  | unreadable _ _ .unusable | unreadable _ _ .notEncodable => none
  | notUtf8 => none
  | yaml e => if e = .malformed then some .clusterConfig else none
  | unwritable _ => none
  | format _ => some .networkFormat
  | _ => some .clusterConfig

def PreflightError.family : PreflightError → Family
  | vpcNotFound _ _ => .networkNotFound
  | manyVpcs _ _ => .preflight
  | vpcWithoutBlock _ => .preflight
  | blockMismatch _ _ => .blockMismatch
  | subnetOverlap _ _ => .subnetOverlap
  | keyPairNotFound _ _ => .keyPairNotFound
  | zoneNotFound _ => .zoneNotFound
  | recordTaken _ _ => .recordConflict

def StackError.family : StackError → Family
  | notFound _ => .stackNotFound
  | timeout _ _ _ => .waitTimeout

namespace Failure

def family? : Failure → Option Family
  | config e => e.family?
  | preflight e => some e.family
  | stack e => some e.family
  | quoted family _ => some family
  | _ => none

/-- The codes of rejections that may pass when the request is repeated later. -/
def transientCodes : List String :=
  ["AccessDenied", "AccessDeniedException", "AuthFailure", "ExpiredToken",
    "ExpiredTokenException", "InternalError", "InternalFailure", "InvalidClientTokenId",
    "RequestExpired", "RequestLimitExceeded", "RequestThrottled", "RequestTimeout",
    "ServiceUnavailable", "SignatureDoesNotMatch", "Throttling", "ThrottlingException",
    "TooManyRequestsException", "UnauthorizedOperation", "UnrecognizedClientException"]

/-- Whether a failure comes from the way to a service and not from the request. -/
def isTransport : Failure → Bool
  | disrupted _ | unreached _ => true
  | rejected r => r.hasCode transientCodes || 500 ≤ r.status
  | _ => false

/-- Whether the tools report a failure in one line. Any other failure breaks them off. -/
def isReported : Failure → Bool
  | rejected _ | disrupted _ | unreached _ => true
  | f => f.family?.isSome

end Failure

end ClusterLaunch
