import Vigil.Health.Executor
import Vigil.Platform.Basic
import Vigil.Task.Sweeper
import Vigil.Task.Tracked

/-!
# Host — Basic

A platform together with what runs on it over time: monitors and the contexts they ping,
sweepers, and tracked operations.  Nothing here waits: work that is to run soon is kept in a
list until the host settles.
-/

namespace Vigil
namespace Host

/-- How an operation comes to its end. -/
inductive Ending (α : Type) where
  | value (a : α)
  | error (text : String)
  | panic
  deriving DecidableEq, Repr

/-- What became of an operation. -/
inductive Outcome (α : Type) where
  | value (a : α)
  | error (text : String)
  | panicked
  | aborted
  deriving DecidableEq, Repr

/-- An operation that runs as a tracked task: it waits, then it ends. -/
structure Operation (α : Type) where
  /-- Which registry its task is recorded in. -/
  registry : Nat
  task : Task.Tracked
  delay : Span
  ending : Ending α
  /-- Until when it waits. -/
  wake : Option Tick
  outcome : Option (Outcome α)
  deriving DecidableEq, Repr

/-- A sweeper and its registry. -/
structure Sweep where
  registry : Nat
  sweeper : Task.Sweeper
  /-- Whether it ended in a panic. -/
  panicked : Bool
  deriving DecidableEq, Repr

/-- Work that runs as soon as what runs now is done. -/
inductive Work where
  /-- A ping is acknowledged. -/
  | acknowledge (arrival : Health.Arrival)
  /-- A loop without a period begins, and panics. -/
  | startLoop
  /-- An operation runs for the first time. -/
  | startOperation (id : Nat)
  deriving DecidableEq, Repr

end Host

/-- A platform and what runs on it.  Fresh ids are given out to its operations as `ids` says. -/
structure Host (ids : Nat → String) (α : Type) where
  platform : Platform
  monitors : List Health.Monitor
  executors : Table Health.Executor
  sweeps : List Host.Sweep
  operations : List (Host.Operation α)
  /-- What is to run next, in order. -/
  ready : List Host.Work

namespace Host
variable {ids : Nat → String} {α : Type}

/-- A platform on which nothing runs. -/
def new (p : Platform) : Host ids α := ⟨p, [], .empty, [], [], []⟩

/-- The monotonic clock. -/
def now (h : Host ids α) : Tick := h.platform.now

/-- Lets work run as soon as what runs now is done. -/
def soon (h : Host ids α) (work : List Work) : Host ids α := { h with ready := h.ready ++ work }

/-- Logs events. -/
def note (h : Host ids α) (events : List Notice) : Host ids α :=
  { h with platform := h.platform.note events }

/-- The message of a panic about a loop without a period. -/
def periodPanic : String := "`period` must be non-zero."

/-- The name of the thread that everything runs on. -/
def mainThread : String := "main"

/-- What runs on the main thread panics. -/
def panic (h : Host ids α) (message : String) : Host ids α :=
  { h with platform := h.platform.panic (some message) (some mainThread) }

/-- The monitor of a number. -/
def monitor? (h : Host ids α) (id : Nat) : Option Health.Monitor := h.monitors[id]?

/-- Adds a monitor: its number is that of the monitors before. -/
def addMonitor (h : Host ids α) (m : Health.Monitor) : Host ids α :=
  { h with monitors := h.monitors ++ [m] }

/-- Puts a monitor in the place of one. -/
def setMonitor (h : Host ids α) (id : Nat) (m : Health.Monitor) : Host ids α :=
  { h with monitors := h.monitors.set id m }

/-- Records that a ping was acknowledged. -/
def acknowledge (h : Host ids α) (a : Health.Arrival) : Host ids α :=
  match h.monitor? a.monitor with
  | none => h
  | some m => h.setMonitor a.monitor (m.acknowledge a.ping h.now)

/-- Hands a ping to its context. -/
def deliver (h : Host ids α) (monitor : Nat) (d : Health.Delivery) : Host ids α :=
  let arrival : Health.Arrival := ⟨monitor, d.ping⟩
  match h.executors.get? d.context with
  | some (.manual waiting) =>
    { h with executors := h.executors.insert d.context (.manual (waiting ++ [arrival])) }
  | some .runtime => h.soon [.acknowledge arrival]
  | some (.serial true) => h.acknowledge arrival
  | some (.serial false) | none => h

/-- Hands several pings to their contexts. -/
def deliverAll (h : Host ids α) (monitor : Nat) (ds : List Health.Delivery) : Host ids α :=
  ds.foldl (fun h d => h.deliver monitor d) h

/-- Pings one context; says whether its name is registered. -/
def ping (h : Host ids α) (monitor : Nat) (name : String) (timeout : Span) : Host ids α × Bool :=
  match h.monitor? monitor with
  | none => (h, false)
  | some m =>
    let (m, delivery, events) := m.ping name timeout h.now
    (((h.setMonitor monitor m).note events).deliverAll monitor delivery.toList, delivery.isSome)

/-- Pings every context. -/
def pingAll (h : Host ids α) (monitor : Nat) : Host ids α :=
  match h.monitor? monitor with
  | none => h
  | some m =>
    let (m, deliveries) := m.cycle h.now
    (h.setMonitor monitor m).deliverAll monitor deliveries

/-- Starts the periodic cycles of a monitor.  Without an interval only the first one takes
place. -/
def startMonitor (h : Host ids α) (monitor : Nat) : Host ids α :=
  match h.monitor? monitor with
  | none => h
  | some m =>
    let broken := !m.isRunning && m.interval = 0
    let (m, deliveries, events) := m.start h.now
    let h := ((h.setMonitor monitor m).note events).deliverAll monitor deliveries
    if broken then h.soon [.startLoop] else h

/-- Stops the periodic cycles of a monitor. -/
def stopMonitor (h : Host ids α) (monitor : Nat) : Host ids α :=
  match h.monitor? monitor with
  | none => h
  | some m => h.setMonitor monitor m.stop

/-- Starts a sweeper, which ends at once if it is already `cancelled`: the host and the number
of the sweeper.  There is none if its first sweep lies past the end of the clock. -/
def startSweep? (h : Host ids α) (registry : Nat) (cancelled : Bool) :
    Option (Host ids α × Nat) := do
  let r ← h.platform.registries[registry]?
  let _ ← Tick.after? h.now r.sweepInterval
  let broken := decide (r.sweepInterval = 0)
  let sweeper : Task.Sweeper := .new r.sweepInterval h.now
  let sweep : Sweep := ⟨registry, if cancelled || broken then sweeper.cancel else sweeper, broken⟩
  let h' := { h with sweeps := h.sweeps ++ [sweep] }
  some (if broken then h'.soon [.startLoop] else h', h.sweeps.length)

/-- Cancels a sweeper. -/
def cancelSweep (h : Host ids α) (id : Nat) : Host ids α :=
  { h with sweeps := h.sweeps.modify id fun s => { s with sweeper := s.sweeper.cancel } }

end Host
end Vigil
