import Vigil.Task.Registry

/-!
# Task — Tracked

An operation run as a tracked task.  It is recorded as started when it first runs, and ends with
exactly one transition: as its result says, or as cancelled if it is abandoned, be it dropped or
unwound by a panic.
-/

namespace Vigil.Task

/-- Why an abandoned operation counts as cancelled. -/
def droppedReason : String := "dropped before completion"

/-- An operation run as a tracked task. -/
inductive Tracked where
  /-- Not run yet, and so not recorded. -/
  | fresh (name : String)
  /-- Recorded under an id and not finished. -/
  | running (id : String)
  | finished
  deriving DecidableEq, Repr

namespace Tracked

/-- How an operation leaves its task. -/
inductive Exit where
  | succeeded
  | failed (error : String)
  /-- Dropped, or unwound by a panic. -/
  | abandoned
  deriving DecidableEq, Repr

/-- The transition that an exit attempts. -/
def Exit.outcome : Exit → Outcome
  | .succeeded => .succeeded
  | .failed error => .failed error
  | .abandoned => .cancelled droppedReason

/-- The operation is about to run: the first time it is recorded, under the unused `id`. -/
def enter (t : Tracked) (r : Registry) (id : String) (now : Tick) :
    Tracked × Registry × List Notice :=
  match t with
  | .fresh name => (.running id, r.start id name now)
  | t => (t, r, [])

/-- The operation is over. -/
def leave (t : Tracked) (r : Registry) (exit : Exit) (now : Tick) :
    Tracked × Registry × List Notice :=
  match t with
  | .running id =>
    let (r, _, notices) := r.finish id exit.outcome now
    (.finished, r, notices)
  | _ => (.finished, r, [])

end Tracked
end Vigil.Task
