import Vigil.Host.Operations

/-!
# Host — Time

The passage of time.  `settle` runs all that is ready or due; `sleep` moves the clock from one
deadline to the next and settles at each, and `jump` moves it at once.
-/

namespace Vigil.Host
variable {ids : Nat → String} {α : Type}

/-- Does one piece of work. -/
def perform (h : Host ids α) : Work → Host ids α
  | .acknowledge arrival => h.acknowledge arrival
  | .startLoop => h.panic periodPanic
  | .startOperation id => h.startOperation id

/-- Does all work that is ready. -/
def runReady (h : Host ids α) : Host ids α :=
  let work := h.ready
  work.foldl perform { h with ready := [] }

/-- Something with a deadline. -/
inductive Timer where
  | sweep (id : Nat)
  | monitor (id : Nat)
  | operation (id : Nat)
  deriving DecidableEq, Repr

/-- The deadlines of the members of a list, with what they are deadlines of. -/
def deadlines {β : Type} (deadline? : β → Option Tick) (timer : Nat → Timer) (bs : List β) :
    List (Tick × Timer) :=
  bs.zipIdx.filterMap fun (b, id) => (deadline? b).map (·, timer id)

/-- All deadlines. -/
def timers (h : Host ids α) : List (Tick × Timer) :=
  deadlines (·.sweeper.deadline?) .sweep h.sweeps ++
    deadlines Health.Monitor.deadline? .monitor h.monitors ++
    deadlines (·.wake) .operation h.operations

/-- A sweep that is due. -/
def runSweep (h : Host ids α) (id : Nat) : Host ids α :=
  match h.sweeps[id]? with
  | none => h
  | some s =>
    let (platform, sweeper) := h.platform.withRegistry s.registry s.sweeper fun r =>
      let (sweeper, r) := s.sweeper.run r h.now
      (r, sweeper, [])
    { h with platform, sweeps := h.sweeps.set id { s with sweeper } }

/-- The checks and cycles of a monitor that are due. -/
def runMonitor (h : Host ids α) (id : Nat) : Host ids α :=
  match h.monitor? id with
  | none => h
  | some m =>
    let (m, events) := m.checkDue h.now
    let (m, deliveries) := m.cycleDue h.now
    ((h.setMonitor id m).note events).deliverAll id deliveries

/-- What is due of a timer. -/
def runTimer (h : Host ids α) : Timer → Host ids α
  | .sweep id => h.runSweep id
  | .monitor id => h.runMonitor id
  | .operation id => h.wakeOperation id

/-- Runs all that is due, in the order of the deadlines. -/
def runDue (h : Host ids α) : Host ids α :=
  let due := (h.timers.filter fun t => decide (t.1 ≤ h.now)).mergeSort fun a b => decide (a.1 ≤ b.1)
  due.foldl (fun h t => h.runTimer t.2) h

/-- Runs all that is ready or due: what a due cycle makes ready or due at once comes last. -/
def settle (h : Host ids α) : Host ids α := h.runReady.runDue.runReady.runDue

/-- The host at another time. -/
def atTime (h : Host ids α) (t : Tick) : Host ids α :=
  { h with platform := { h.platform with now := t } }

/-- The next deadline. -/
def nextDeadline? (h : Host ids α) : Option Tick := (h.timers.map (·.1)).min?

/-- Moves the clock to `target`, at most `fuel` deadlines being on the way. -/
def sleepFor (target : Tick) : Nat → Host ids α → Host ids α
  | 0, h => h.atTime target
  | fuel + 1, h =>
    match h.nextDeadline? with
    | none => h.atTime target
    | some d => if d ≤ target then sleepFor target fuel (h.atTime (max d h.now)).settle
      else h.atTime target

/-- Lets `d` pass, all that is due being done at its own deadline.  The clock moves on with
every deadline, so there is at most one for each nanosecond. -/
def sleep (h : Host ids α) (d : Span) : Host ids α := sleepFor (h.now + d) (d + 1) h.settle

/-- Lets `d` pass at once; what is due in between is done late. -/
def jump (h : Host ids α) (d : Span) : Host ids α := (h.atTime (h.now + d)).settle

end Vigil.Host
