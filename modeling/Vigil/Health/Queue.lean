import Vigil.Notice

/-!
# Health — Queue

A queue of jobs with one worker, which executes them in the order in which they were handed in.
A job that panics takes the worker with it; a shutdown lets the jobs that wait finish first.
-/

namespace Vigil.Health

/-- A job: what it puts out, or that it panics. -/
inductive Job (α : Type) where
  | output (values : List α)
  | panic
  deriving DecidableEq, Repr

namespace Job
variable {α : Type}

/-- Whether the job takes the worker with it. -/
def panics : Job α → Bool
  | .output _ => false
  | .panic => true

/-- What the job puts out. -/
def values : Job α → List α
  | .output values => values
  | .panic => []

end Job

/-- What a worker does. -/
inductive Worker where
  | running
  /-- A job has taken it along. -/
  | panicked
  /-- It was waited for. -/
  | joined
  deriving DecidableEq, Repr

/-- A queue with its worker. -/
structure Queue (α : Type) where
  /-- The name, which is also that of the worker's thread. -/
  name : String
  /-- The jobs that wait, in order. -/
  waiting : List (Job α) := []
  /-- The jobs that were executed, in order; at most the last one panicked. -/
  executed : List (Job α) := []
  worker : Worker := .running
  /-- Whether jobs are still accepted. -/
  isOpen : Bool := true

namespace Queue
variable {α : Type}

/-- A new queue; a thread cannot have a name with a NUL character. -/
def spawn? (name : String) : Option (Queue α) :=
  if name.contains '\x00' then none else some { name }

/-- Hands in a job.  It is dropped without a word once the queue is shut down, and with a
warning once the worker is gone. -/
def dispatch (q : Queue α) (job : Job α) : Queue α × List Notice :=
  if !q.isOpen then (q, [])
  else if q.worker = .running then ({ q with waiting := q.waiting ++ [job] }, [])
  else (q, [.workerGone q.name])

/-- The worker executes the first job that waits; the jobs behind one that panics are lost. -/
def work (q : Queue α) : Queue α :=
  match q.worker, q.waiting with
  | .running, job :: rest =>
    if job.panics then
      { q with executed := q.executed ++ [job], waiting := [], worker := .panicked }
    else { q with executed := q.executed ++ [job], waiting := rest }
  | _, _ => q

/-- The worker executes the next `n` jobs. -/
def workFor (q : Queue α) : Nat → Queue α
  | 0 => q
  | n + 1 => q.work.workFor n

/-- The worker executes all jobs that wait. -/
def drain (q : Queue α) : Queue α := q.workFor q.waiting.length

/-- Hands in a job when no other waits, and waits for it; says whether it was executed. -/
def await (q : Queue α) (job : Job α) : Queue α × Bool × List Notice :=
  let q := q.drain
  let (handedIn, events) := q.dispatch job
  let after := handedIn.drain
  (after, q.executed.length < after.executed.length, events)

/-- Accepts no more jobs and waits for the worker to finish those it has. -/
def shutdown (q : Queue α) : Queue α × List Notice :=
  let q := { q with isOpen := false }.drain
  match q.worker with
  | .running => ({ q with worker := .joined }, [])
  | .panicked => ({ q with worker := .joined }, [.workerPanicked q.name])
  | .joined => (q, [])

/-- What the executed jobs put out. -/
def done (q : Queue α) : List α := q.executed.flatMap Job.values

end Queue
end Vigil.Health
