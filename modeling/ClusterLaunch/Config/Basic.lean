import ClusterLaunch.Config.Error

/-! # Cluster configurations

A configuration is built from the entries of a mapping in their order. Each entry sets its own
setting; settings without an entry keep their defaults.
-/

namespace ClusterLaunch

/-- The lifetime of a record that a document leaves out, in seconds. -/
def defaultLifetime : Int := 300

structure Config where
  text : TextSetting → String := TextSetting.default
  createRecordSet : Bool := false
  recordSetTTL : Int := defaultLifetime
  stackTags : List (String × String) := []

namespace Config

def initial : Config := {}

def reusesVpc (c : Config) : Bool := c.text .vpcId ≠ ""

def setText (c : Config) (s : TextSetting) (value : String) : Config :=
  { c with text := fun t => if t = s then value else c.text t }

def written (h : Heap) (v : Value) : Except ConfigError String :=
  match h.obstacle? v with
  | some o => .error (.unwritable o)
  | none => .ok (h.text v)

/-- The text of a setting; nothing stands for the empty text. Flags and collections other than
sets are refused. -/
def textOf (h : Heap) (s : TextSetting) (v : Value) : Except ConfigError String :=
  match v with
  | .scalar .null => .ok ""
  | .scalar (.flag _) => .error (.notText s)
  | .scalar _ => written h v
  | .collection id => match h.get id with
    | .set _ => written h v
    | _ => .error (.notText s)

def flagOf : Value → Except ConfigError Bool
  | .scalar (.flag b) => .ok b
  | _ => .error .notFlag

def integerOf : Value → Except ConfigError Int
  | .scalar (.integer n) => .ok n
  | _ => .error .notInteger

/-- One tag. A value that is nothing gives the empty text. -/
def tagOf (h : Heap) (key : Scalar) (v : Value) : Except ConfigError (String × String) := do
  let name ← written h (.scalar key)
  match v with
  | .scalar .null => return (name, "")
  | v => return (name, ← written h v)

def tagsOf (h : Heap) : Value → Except ConfigError (List (String × String))
  | .scalar .null => .ok []
  | .scalar _ => .error .notTags
  | .collection id => match h.get id with
    | .mapping entries => entries.mapM fun (k, v) => tagOf h k v
    | _ => .error .notTags

def assign (h : Heap) (c : Config) (s : Setting) (v : Value) : Except ConfigError Config :=
  match s with
  | .text t => (textOf h t v).map (c.setText t)
  | .createRecordSet => (flagOf v).map fun b => { c with createRecordSet := b }
  | .recordSetTTL => (integerOf v).map fun n => { c with recordSetTTL := n }
  | .stackTags => (tagsOf h v).map fun tags => { c with stackTags := tags }

def settingOf (key : Scalar) : Except ConfigError Setting :=
  let unknown := if key.isWritable then .error (.unknownKey key) else .error (.unwritable .digits)
  match key with
  | .text s => match Setting.ofKey? s with
    | some setting => .ok setting
    | none => unknown
  | _ => unknown

def addEntry (h : Heap) (c : Config) (entry : Scalar × Value) : Except ConfigError Config := do
  assign h c (← settingOf entry.1) entry.2

/-- Build a configuration from entries in their order, without checking it. -/
def ofEntries (h : Heap) (entries : List (Scalar × Value)) : Except ConfigError Config :=
  entries.foldlM (addEntry h) initial

def entriesOf (d : Data) : Except ConfigError (List (Scalar × Value)) :=
  match d.value with
  | .scalar .null => .ok []
  | .scalar _ => .error .notMapping
  | .collection id => match d.heap.get id with
    | .mapping entries => .ok entries
    | _ => .error .notMapping

def ofData (d : Data) : Except ConfigError Config := do
  ofEntries d.heap (← entriesOf d)

@[simp] theorem text_setText_self (c : Config) (s : TextSetting) (value : String) :
    (c.setText s value).text s = value := by
  simp [setText]

theorem text_setText_of_ne (c : Config) {s t : TextSetting} (h : t ≠ s) (value : String) :
    (c.setText s value).text t = c.text t := by
  simp [setText, h]

end Config

end ClusterLaunch
