import ClusterLaunch.Cloud.Session

/-! # Failure causes

Of the events of a stack that failed, those are causes that report a failed creation which was
not cancelled because another one failed.
-/

namespace ClusterLaunch

open Session

structure StackEvent where
  status : String
  type : String
  logicalId : Option String := none
  reason : Option String := none
  deriving DecidableEq, Repr

def holds (part : List Char) : List Char → Bool
  | [] => part.isEmpty
  | c :: rest => part.isPrefixOf (c :: rest) || holds part rest

/-- Whether a reason tells of the failure of another resource. -/
def isCancellation (reason : Option String) : Bool :=
  reason.any fun r => holds "Resource creation cancelled".toList r.toList

namespace StackEvent

def ofReported (r : ReportedEvent) : StackEvent :=
  ⟨r.status.getD "", r.type.getD "", filled r.logicalId, filled r.reason⟩

def isCause (e : StackEvent) : Bool := e.status = "CREATE_FAILED" && !isCancellation e.reason

/-- The parts of an event that are not empty, with spaces between them. -/
def message (e : StackEvent) : String :=
  " ".intercalate ([some e.status, some e.type, e.logicalId, e.reason].filterMap filled)

/-- The messages of the causes, in the order of the events. -/
def messages (events : List StackEvent) : List String := (events.filter isCause).map message

def fetch (handle : String) : Session (List StackEvent) := do
  let pages ← allPages .describeStackEvents
    (fun token => (ask (.describeStackEvents handle token) : Session EventPage))
    (fun _ page => (filled page.nextToken).map some) none
  return pages.flatMap fun page => page.events.map ofReported

end StackEvent

def describeFailure (handle : String) : Session (List String) := do
  let events ← StackEvent.fetch handle
  log .debug .orchestration
    ("Fetched " ++ toString events.length ++ " events for stack " ++ handle)
  return StackEvent.messages events

end ClusterLaunch
