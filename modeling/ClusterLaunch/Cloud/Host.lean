import ClusterLaunch.Cloud.Session
import ClusterLaunch.Text.CodePoint

/-! # Hosts

A session runs in a process, its host. The standard output of the host may refuse a line, and its
clock a pause. The refusal is a failure that no part of the tools handles, so a run ends where its
host first refuses something. Log records and the lines of the standard error stream are never
refused: what has no code there is escaped.
-/

namespace ClusterLaunch

structure Host where
  /-- Whether the standard output takes a line. -/
  takes : String → Bool
  /-- Whether the clock can make a pause of some seconds. -/
  waits : Float → Bool

/-- The failure of an event that a host refuses. -/
def Host.refusal? (host : Host) : Event → Option Failure
  | .printed line => if host.takes line then none else some (.unencodable line)
  | .slept seconds => if host.waits seconds then none else some (.unwaitable seconds)
  | _ => none

/-- A run in a host. The first event that is refused does not happen, and it is the end. -/
def Run.hosted {α : Type} (r : Run α) (host : Host) : Run α where
  outcome := (r.events.findSome? host.refusal?).elim r.outcome .error
  events := r.events.takeWhile fun e => (host.refusal? e).isNone
  world := r.world

namespace Host

/-- A host that keeps all lines in memory and whose clock is a number. -/
def recorder : Host where
  takes _ := true
  waits _ := true

/-- Whether a text has a code in UTF-8, which surrogates do not have. -/
def isEncodable (line : String) : Bool :=
  (Text.codePoints line.toList).all fun n => !Text.isSurrogate n

/-- A host with a standard output in UTF-8 and the clock of a system, which counts nanoseconds in 63
bits. -/
def system : Host where
  takes := isEncodable
  waits seconds := 0.0 ≤ seconds && seconds * 1e9 < 9223372036854775808.0

end Host

end ClusterLaunch
