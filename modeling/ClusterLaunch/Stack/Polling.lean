import ClusterLaunch.Cloud.Session

/-! # Waiting for a stack

A stack is asked for its status again and again until it has stopped changing or the time is up. A
status is pending while its code ends in `_IN_PROGRESS`. Of the others one means success.
-/

namespace ClusterLaunch

open Session

structure StackStatus where
  id : String
  status : String
  reason : Option String := none
  deriving DecidableEq, Repr

namespace StackStatus

/-- The end of the codes of a stack that is still changing. -/
def pendingMark : String := "_IN_PROGRESS"

/-- Whether the stack has stopped changing. -/
def isTerminal (s : StackStatus) : Bool := !pendingMark.toList.isSuffixOf s.status.toList

def isSuccess (s : StackStatus) : Bool := s.status = "CREATE_COMPLETE"

/-- Whether the stack has stopped without being complete. -/
def isFailure (s : StackStatus) : Bool := s.isTerminal && !s.isSuccess

def ofReported (handle : String) (r : ReportedStack) : StackStatus :=
  ⟨(filled r.id).getD handle, r.status.getD "", filled r.reason⟩

def describe (handle : String) : Session StackStatus := do
  let reports : List ReportedStack ← ask (.describeStacks handle)
  match reports with
  | [] => fail (.stack (.notFound handle))
  | report :: _ => return ofReported handle report

/-- What follows the code of a status when there is a reason. -/
def detail (s : StackStatus) : String :=
  match s.reason with
  | some reason => s.status ++ ": " ++ reason
  | none => s.status

end StackStatus

/-- The pause between two polls in seconds, unless another one is set. -/
def defaultInterval : Float := 3.0

/-- The time limit of a wait in seconds, unless another one is set. -/
def defaultLimit : Float := 1800.0

/-- Poll a stack until it has stopped changing, at most `more` times after the first. The time
limit is checked after each pending status, and a pause follows when it is not reached. -/
def pollStack (handle : String) (interval limit start : Float) : Nat → Session StackStatus
  | 0 => StackStatus.describe handle
  | more + 1 => do
    let status ← StackStatus.describe handle
    if status.isTerminal then return status
    else
      log .debug .polling ("Stack " ++ handle ++ " is " ++ status.status)
      if limit ≤ (← now) - start then fail (.stack (.timeout handle status.status limit))
      else
        sleep interval
        pollStack handle interval limit start more

def waitForStack (handle : String) (interval limit : Float) : Session StackStatus := do
  pollStack handle interval limit (← now) (← remaining .describeStacks)

end ClusterLaunch
