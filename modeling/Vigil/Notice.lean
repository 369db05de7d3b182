import Vigil.Error
import Vigil.Marker.Basic

/-!
# Notice

The warnings and errors that are logged when something is misused or goes wrong; each has a
level, a message and named fields.
-/

namespace Vigil

/-- An event worth a warning or an error in the log. -/
inductive Notice where
  /-- A task was started under the id of a task that is still held. -/
  | taskIdReused (id previousName previousOutcome : String)
  /-- A task that is not held was to end. -/
  | unknownTask (id outcome : String)
  /-- A task that has ended was to end again. -/
  | alreadyTerminal (id recorded attempted : String)
  /-- A task ended with an error. -/
  | taskFailed (id name error : String)
  /-- A probe took the place of another of its name. -/
  | probeReplaced (probe : String)
  /-- A ping was asked for under a name that no probe has. -/
  | unknownProbe (probe : String)
  /-- A ping was not acknowledged in time. -/
  | pingTimedOut (probe : String) (generation timeouts timeoutMillis : Nat)
  /-- A running monitor was started. -/
  | monitorRunning
  /-- A job was handed to a queue whose worker has panicked. -/
  | workerGone (queue : String)
  /-- A queue shut down after its worker had panicked. -/
  | workerPanicked (queue : String)
  /-- There is a marker, but it cannot be read. -/
  | markerUnreadable (path failure : String)
  /-- A fresh marker could not be written. -/
  | markerNotWritten (failure : Error)
  /-- The marker of a prior session could not be deleted. -/
  | staleMarkerKept (failure : Error)
  /-- The own marker could not be deleted on shutdown. -/
  | markerKept (failure : Error)
  /-- The own marker could not be deleted when an installation was undone. -/
  | markerKeptAfterFailure (failure : Error)
  /-- An installed reporter was installed. -/
  | alreadyInstalled (state : String)
  /-- An interceptor refused to be armed. -/
  | armFailed (interceptor : String) (failure : Error)
  /-- A prior session left a marker that reads. -/
  | priorCrash (marker : Marker)
  /-- A prior session left a marker that does not read. -/
  | priorCrashUnread (contents : String)
  /-- A fault was recorded. -/
  | faultCaptured (summary : String)

namespace Notice

/-- How grave an event is. -/
inductive Level where
  | warning
  | error
  deriving DecidableEq, Repr

/-- The value of a field. -/
inductive Field where
  | text (value : String)
  | number (value : Nat)
  deriving DecidableEq, Repr

/-- How grave the event is. -/
def level : Notice → Level
  | armFailed .. | priorCrash .. | priorCrashUnread .. | faultCaptured .. => .error
  | _ => .warning

/-- What happened. -/
def message : Notice → String
  | taskIdReused .. => "task id reused; overwriting existing entry"
  | unknownTask .. => "terminal transition for unknown task id"
  | alreadyTerminal .. => "task already terminal; ignoring duplicate transition"
  | taskFailed .. => "task failed"
  | probeReplaced .. => "probe re-registered; previous state discarded"
  | unknownProbe .. => "ping requested for unknown probe"
  | pingTimedOut .. => "liveness ping timed out"
  | monitorRunning => "health monitor already running"
  | workerGone .. => "serial queue worker gone; job dropped"
  | workerPanicked .. => "serial queue worker panicked"
  | markerUnreadable .. => "crash marker present but unreadable"
  | markerNotWritten .. => "failed to write crash marker"
  | staleMarkerKept .. => "failed to delete stale crash marker"
  | markerKept .. => "failed to delete crash marker on shutdown"
  | markerKeptAfterFailure .. => "failed to delete crash marker after failed install"
  | alreadyInstalled .. => "crash reporter already installed"
  | armFailed .. => "failed to arm fault interceptor"
  | priorCrash .. | priorCrashUnread .. => "previous session crashed"
  | faultCaptured .. => "fatal fault captured"

/-- The details, by name. -/
def fields : Notice → List (String × Field)
  | taskIdReused id name outcome =>
    [("task_id", .text id), ("previous_name", .text name), ("previous_outcome", .text outcome)]
  | unknownTask id outcome => [("task_id", .text id), ("outcome", .text outcome)]
  | alreadyTerminal id recorded attempted =>
    [("task_id", .text id), ("recorded", .text recorded), ("attempted", .text attempted)]
  | taskFailed id name error =>
    [("task_id", .text id), ("task_name", .text name), ("error", .text error)]
  | probeReplaced probe | unknownProbe probe => [("probe", .text probe)]
  | pingTimedOut probe generation timeouts limit =>
    [("probe", .text probe), ("generation", .number generation),
      ("consecutive_timeouts", .number timeouts), ("timeout_ms", .number limit)]
  | monitorRunning => []
  | workerGone queue | workerPanicked queue => [("queue", .text queue)]
  | markerUnreadable path failure => [("path", .text path), ("err", .text failure)]
  | markerNotWritten e | staleMarkerKept e | markerKept e => [("err", .text e.message)]
  | markerKeptAfterFailure e => [("remove_err", .text e.message)]
  | alreadyInstalled state => [("state", .text state)]
  | armFailed interceptor e => [("interceptor", .text interceptor), ("err", .text e.message)]
  | priorCrash m =>
    [("session_start", .text (String.ofList (m.start.toRfc3339 Instant.numericZone))),
      ("pid", .number m.pid.toNat), ("version", .text m.version)]
  | priorCrashUnread contents => [("contents", .text contents)]
  | faultCaptured summary => [("fault", .text summary)]

end Notice
end Vigil
