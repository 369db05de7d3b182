import Vigil.Notice
import Vigil.Table
import Vigil.Task.Basic

/-!
# Task — Registry

The registry of tracked tasks.  A task starts once under its id and ends once: the first
`complete` or `cancel` counts and later ones change nothing.  A sweep drops tasks that ended
long ago; `start` sweeps by itself when the last sweep is old.
-/

namespace Vigil.Task

/-- The tasks that are held, and when they were last swept. -/
structure Registry where
  tasks : Table Record
  lastSweep : Tick
  /-- How long a task that has ended is kept at least. -/
  retention : Span
  /-- How far apart the sweeps of `start` are at least. -/
  sweepInterval : Span

namespace Registry

/-- A registry without tasks. -/
def new (retention sweepInterval : Span) (now : Tick) : Registry :=
  ⟨.empty, now, retention, sweepInterval⟩

/-- The task under an id. -/
def get? (r : Registry) (id : String) : Option Record := r.tasks.get? id

/-- The tasks that are held. -/
def records (r : Registry) : List Record := r.tasks.values

/-- Drops the tasks that ended longer than the retention ago. -/
def sweep (r : Registry) (now : Tick) : Registry :=
  { r with tasks := r.tasks.filter fun _ t => !t.expired r.retention now, lastSweep := now }

/-- How many tasks a sweep drops. -/
def sweepCount (r : Registry) (now : Tick) : Nat := r.tasks.size - (r.sweep now).tasks.size

/-- Sweeps if the last sweep is an interval ago. -/
def sweepIfDue (r : Registry) (now : Tick) : Registry :=
  if r.sweepInterval ≤ now - r.lastSweep then r.sweep now else r

/-- The warning that `id` is taken. -/
def reuseNotice (r : Registry) (id : String) : List Notice :=
  match r.get? id with
  | some t => [.taskIdReused id t.name t.outcome.label]
  | none => []

/-- Records a pending task, over any task with the same id. -/
def start (r : Registry) (id name : String) (now : Tick) : Registry × List Notice :=
  let r := r.sweepIfDue now
  ({ r with tasks := r.tasks.insert id (.new id name now) }, r.reuseNotice id)

/-- What is logged when a task ends. -/
def endNotice (t : Record) (id : String) : Outcome → List Notice
  | .failed error => [.taskFailed id t.name error]
  | _ => []

/-- Ends a pending task and says whether it did: a task that is not held or has ended is left
alone. -/
def finish (r : Registry) (id : String) (outcome : Outcome) (now : Tick) :
    Registry × Bool × List Notice :=
  match r.get? id with
  | none => (r, false, [.unknownTask id outcome.label])
  | some t =>
    if t.outcome.isTerminal then
      (r, false, [.alreadyTerminal id t.outcome.label outcome.label])
    else
      ({ r with tasks := r.tasks.insert id (t.finish outcome now) }, true, endNotice t id outcome)

/-- Ends a task as its operation did. -/
def complete (r : Registry) (id : String) (success : Bool) (error : Option String) (now : Tick) :
    Registry × Bool × List Notice :=
  r.finish id (.ofCompletion success error) now

/-- Ends a task as cancelled. -/
def cancel (r : Registry) (id reason : String) (now : Tick) : Registry × Bool × List Notice :=
  r.finish id (.cancelled reason) now

/-! ### The record under an id -/

theorem get?_sweep (r : Registry) (now : Tick) (id : String) :
    (r.sweep now).get? id = (r.get? id).filter fun t => !t.expired r.retention now :=
  r.tasks.get?_filter _ id

theorem get?_sweepIfDue (r : Registry) (now : Tick) (id : String) :
    (r.sweepIfDue now).get? id = r.get? id ∨
      (r.sweepIfDue now).get? id = (r.sweep now).get? id := by
  rw [sweepIfDue]
  split
  · exact Or.inr rfl
  · exact Or.inl rfl

theorem get?_start (r : Registry) (id name : String) (now : Tick) (key : String) :
    (r.start id name now).1.get? key =
      if key = id then some (.new id name now) else (r.sweepIfDue now).get? key :=
  Table.get?_insert _ id key _

/-- An end that is refused leaves everything as it was. -/
theorem finish_refused {r : Registry} {id : String} {outcome : Outcome} {now : Tick}
    (h : (r.finish id outcome now).2.1 = false) : (r.finish id outcome now).1 = r := by
  revert h
  rw [finish]
  split
  next => exact fun _ => rfl
  next =>
    split
    next => exact fun _ => rfl
    next => exact fun h => absurd h (by simp)

/-- A task can be ended exactly while it is held and pending. -/
theorem finish_applied (r : Registry) (id : String) (outcome : Outcome) (now : Tick) :
    (r.finish id outcome now).2.1 = (r.get? id).any fun t => !t.outcome.isTerminal := by
  rw [finish]
  split
  next h => simp [h]
  next t h => split <;> simp_all

theorem get?_finish (r : Registry) (id : String) (outcome : Outcome) (now : Tick) (key : String) :
    (r.finish id outcome now).1.get? key =
      if key = id then (r.get? id).map fun t => if t.outcome.isTerminal then t
        else t.finish outcome now
      else r.get? key := by
  rw [finish]
  split
  next h => split <;> simp_all
  next t h =>
    split
    next hend => split <;> simp_all
    next hend =>
      have hins := Table.get?_insert r.tasks id key (t.finish outcome now)
      split <;> simp_all [get?]

end Registry
end Vigil.Task
