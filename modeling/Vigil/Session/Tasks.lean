import Vigil.Session.Basic

/-!
# Session — Tasks

Commands about tasks: their registry, sweepers, and tracked operations.
-/

namespace Vigil.Session
variable {ids : Nat → String} {α : Type}

/-- Runs an operation on the registry. -/
def onRegistry {β : Type} (s : Session ids α) (default : β)
    (f : Task.Registry → Task.Registry × β × List Notice) : Session ids α × β :=
  let (p, result) := s.platform.withRegistry s.registry default f
  (s.withPlatform p, result)

/-- Records the start of a task. -/
def startTask (s : Session ids α) (id name : String) : Session ids α :=
  (s.onRegistry () fun r =>
    let (r, events) := r.start id name s.now
    (r, (), events)).1

/-- Records that a task was completed; says whether that counts. -/
def completeTask (s : Session ids α) (id : String) (success : Bool) (error : Option String) :
    Session ids α × Bool :=
  s.onRegistry false fun r => r.complete id success error s.now

/-- Records that a task was cancelled; says whether that counts. -/
def cancelTask (s : Session ids α) (id reason : String) : Session ids α × Bool :=
  s.onRegistry false fun r => r.cancel id reason s.now

/-- The task of an id. -/
def task? (s : Session ids α) (id : String) : Option Task.Record :=
  s.platform.registries[s.registry]?.bind (·.get? id)

/-- Sweeps the registry; says how many tasks that drops. -/
def sweepTasks (s : Session ids α) : Session ids α × Nat :=
  s.onRegistry 0 fun r => (r.sweep s.now, r.sweepCount s.now, [])

/-- How long the registry keeps tasks, and how far apart its sweeps are. -/
def taskSettings (s : Session ids α) : Span × Span :=
  match s.platform.registries[s.registry]? with
  | some r => (r.retention, r.sweepInterval)
  | none => (0, 0)

/-- The section about tasks, as it is written. -/
def statistics (s : Session ids α) : List (List Char) := s.platform.statistics s.registry

/-- The section about tasks as it is written while it is being written. -/
def statisticsWithin (s : Session ids α) : List (List Char) :=
  { s.platform with inUse := some s.registry }.statistics s.registry

/-- The section about tasks in a buffer of fixed size; says whether it fits. -/
def statisticsInto (s : Session ids α) (size : Nat) : Fault.FixedBuffer × Bool :=
  (Fault.FixedBuffer.new (List.replicate size 0)).writeAll (s.statistics.map Text.encode)

/-- What a writer says that panics. -/
def writerPanic : String := "writer failed"

/-- Writes the section about tasks to a writer that panics at once. -/
def statisticsPanic (s : Session ids α) : Session ids α :=
  let p := { s.platform with inUse := some s.registry }
  let p := p.panic (some writerPanic) (some Host.mainThread)
  s.withPlatform { p with inUse := s.platform.inUse }

/-- Aborts the operation of a label, if there is one. -/
def abortOperation (s : Session ids α) (label : String) : Session ids α :=
  match s.operations.get? label with
  | none => s
  | some id => { s with host := s.host.abortOperation id }

/-- Starts an operation under a label, in place of one that had it. -/
def track (s : Session ids α) (label name : String) (delay : Span) (ending : Host.Ending α) :
    Session ids α :=
  let s := s.abortOperation label
  { s with
    host := s.host.addOperation s.registry name delay ending
    operations := s.operations.insert label s.host.operations.length }

/-- What a label stands for. -/
inductive Tracking (α : Type) where
  /-- No operation, or one whose outcome was told. -/
  | unknown
  | running
  | ended (outcome : Host.Outcome α)
  deriving DecidableEq, Repr

/-- Tells the outcome of an operation, once. -/
def outcome (s : Session ids α) (label : String) : Session ids α × Tracking α :=
  match (s.operations.get? label).bind (s.host.operations[·]?) with
  | none => (s, .unknown)
  | some op => match op.outcome with
    | none => (s, .running)
    | some o => ({ s with operations := s.operations.erase label }, .ended o)

/-- Starts a sweeper. -/
def startSweeper (s : Session ids α) : Session ids α :=
  match s.host.startSweep? s.registry false with
  | some (host, id) => { s with host, sweep := some id }
  | none => s

/-- Cancels the sweeper; says whether it had ended in a panic, if there is one. -/
def stopSweeper (s : Session ids α) : Session ids α × Option Bool :=
  match s.sweep with
  | none => (s, none)
  | some id =>
    ({ s with host := s.host.cancelSweep id, sweep := none }, s.host.sweeps[id]?.map (·.panicked))

end Vigil.Session
