import ClusterLaunch.Cloud.Failure

/-! # Requests and replies

What the services are asked and what they answer. A field of a reply may be left out; where an
empty field means the same, `filled` forgets it.
-/

namespace ClusterLaunch

/-- The text of a field that is there and not empty. -/
def filled (s : Option String) : Option String := s.filter (· ≠ "")

@[simp] theorem filled_none : filled none = none := rfl

@[simp] theorem filled_empty : filled (some "") = none := rfl

theorem filled_eq_some_iff {s : Option String} {t : String} :
    filled s = some t ↔ s = some t ∧ t ≠ "" := by
  unfold filled
  rw [Option.filter_eq_some_iff]
  simp

/-- Where the listing of records goes on. -/
structure RecordCursor where
  name : String
  type : Option String := none
  identifier : Option String := none
  deriving DecidableEq, Repr

structure StackTag where
  key : String
  value : String
  deriving DecidableEq, Repr

structure Submission where
  name : String
  template : String
  onFailure : String
  capabilities : List String
  tags : List StackTag
  deriving DecidableEq, Repr

inductive Request where
  | describeVpcs (id : String)
  | describeSubnets (vpc : String) (token : Option String)
  | describeKeyPairs (name : String)
  | listHostedZones (name : String)
  | listRecordSets (zone : String) (start : Option RecordCursor)
  | createStack (s : Submission)
  | describeStacks (handle : String)
  | describeStackEvents (handle : String) (token : Option String)
  | validateTemplate (template : String)
  deriving DecidableEq, Repr

@[reducible] def Request.method : Request → Method
  | describeVpcs _ => .describeVpcs
  | describeSubnets _ _ => .describeSubnets
  | describeKeyPairs _ => .describeKeyPairs
  | listHostedZones _ => .listHostedZones
  | listRecordSets _ _ => .listRecordSets
  | createStack _ => .createStack
  | describeStacks _ => .describeStacks
  | describeStackEvents _ _ => .describeStackEvents
  | validateTemplate _ => .validateTemplate

/-- A network as the service knows it. -/
structure ReportedVpc where
  id : Option String
  block : Option String
  deriving DecidableEq, Repr

structure ReportedSubnet where
  id : Field
  block : Option String
  deriving DecidableEq, Repr

structure SubnetPage where
  subnets : List ReportedSubnet
  nextToken : Option String
  deriving DecidableEq, Repr

structure ReportedZone where
  id : Option String
  name : Option String
  deriving DecidableEq, Repr

structure RecordPage where
  names : List (Option String)
  isTruncated : Bool
  nextName : Option String
  nextType : Option String
  nextIdentifier : Option String
  deriving DecidableEq, Repr

structure ReportedStack where
  id : Option String
  status : Option String
  reason : Option String
  deriving DecidableEq, Repr

structure ReportedEvent where
  status : Option String
  type : Option String
  logicalId : Option String
  reason : Option String
  deriving DecidableEq, Repr

structure EventPage where
  events : List ReportedEvent
  nextToken : Option String
  deriving DecidableEq, Repr

structure TemplateSummary where
  capabilities : List String
  description : Option String
  deriving DecidableEq, Repr

@[reducible] def Method.Reply : Method → Type
  | describeVpcs => List ReportedVpc
  | describeSubnets => SubnetPage
  | describeKeyPairs => List (Option String)
  | listHostedZones => List ReportedZone
  | listRecordSets => RecordPage
  | createStack => Option String
  | describeStacks => List ReportedStack
  | describeStackEvents => EventPage
  | validateTemplate => TemplateSummary

/-- An answer of a service: a reply or a failure after some time. -/
structure Answer (α : Type) where
  delay : Float
  result : Except Failure α

abbrev Answers := (m : Method) → List (Answer m.Reply)

/-- The answers without the next one of a method. -/
def Answers.drop (a : Answers) (m : Method) : Answers :=
  fun other => if other = m then (a other).tail else a other

@[simp] theorem Answers.drop_self (a : Answers) (m : Method) : a.drop m m = (a m).tail := by
  simp [Answers.drop]

theorem Answers.drop_of_ne (a : Answers) {m other : Method} (h : other ≠ m) :
    a.drop m other = a other := by
  simp [Answers.drop, h]

end ClusterLaunch
