import ClusterLaunch.Config.Setting
import ClusterLaunch.Files.Basic
import ClusterLaunch.Network.Reader
import ClusterLaunch.Yaml.Basic

/-! # Faults of a configuration

Everything that can be wrong with the files of a cluster and with the configuration in them.
-/

namespace ClusterLaunch

inductive Document where
  | configuration
  | template
  deriving DecidableEq, Repr

def Document.name : Document → String
  | .configuration => "cluster configuration"
  | .template => "stack template"

/-- What is wrong with a configuration or with one of its files. -/
inductive ConfigError where
  | unreadable (document : Document) (path : Path) (cause : ReadError)
  | notUtf8
  | yaml (e : Yaml.Error)
  | notMapping
  | unknownKey (key : Scalar)
  /-- A value cannot be written out as text. -/
  | unwritable (o : Obstacle)
  | notText (s : TextSetting)
  | notFlag
  | notInteger
  | notTags
  | unset (s : TextSetting)
  | noZone
  | shortLifetime
  | changedLifetime
  | noVpc
  | format (e : Network.FormatError)
  | instanceOutside (vpc inst : Network.Block)
  | controllerOutside (inst : Network.Block) (controller : Network.Address)
  | overlapping (a : TextSetting) (blockA : Network.Block) (b : TextSetting)
      (blockB : Network.Block)
  | resolverOutside (service : Network.Block) (text : String)

namespace ConfigError

def named (s : TextSetting) (block : Network.Block) : String :=
  s.key ++ " (" ++ toString block ++ ")"

/-- The message of a fault. The words of the reader of a document or of its bytes are left out. -/
def message : ConfigError → String
  | unreadable document path cause =>
    "cannot read " ++ document.name ++ " " ++ path.text ++ ": " ++ cause.message path
  | notUtf8 => "not UTF-8"
  | yaml _ => "invalid cluster configuration YAML"
  | notMapping => "cluster configuration must be a YAML mapping"
  | unknownKey key => "unknown cluster configuration key: " ++ key.shown
  | unwritable .digits => "integer too long"
  | unwritable .depth => "collections nested too deep"
  | notText s => s.key ++ " must be a string"
  | notFlag => "createRecordSet must be true or false"
  | notInteger => "recordSetTTL must be an integer"
  | notTags => "stackTags must be a mapping of tag keys to values"
  | unset s => s.key ++ " must be set"
  | noZone => "hostedZone cannot be blank when createRecordSet is true"
  | shortLifetime => "recordSetTTL must be at least 1 second"
  | changedLifetime => "recordSetTTL should not be modified when createRecordSet is false"
  | noVpc => "vpcId must be specified if routeTableId is specified"
  | format e => e.message
  | instanceOutside vpc inst =>
    named .vpcCIDR vpc ++ " does not contain " ++ named .instanceCIDR inst
  | controllerOutside inst controller =>
    named .instanceCIDR inst ++ " does not contain controllerIP (" ++ toString controller ++ ")"
  | overlapping a blockA b blockB => named a blockA ++ " overlaps with " ++ named b blockB
  | resolverOutside service text =>
    named .serviceCIDR service ++ " does not contain dnsServiceIP (" ++ text ++ ")"

end ConfigError

end ClusterLaunch
