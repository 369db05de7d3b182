import Vigil.Session.Basic

/-!
# Session — Health

Commands about the health of execution contexts, and the contexts themselves.
-/

namespace Vigil.Session
open Health
variable {ids : Nat → String} {α : Type}

/-- Runs an operation on the monitor. -/
def onMonitor {β : Type} (s : Session ids α) (default : β)
    (f : Monitor → Monitor × β × List Notice) : Session ids α × β :=
  match s.monitor.bind fun id => (s.host.monitor? id).map (id, ·) with
  | none => (s, default)
  | some (id, m) =>
    let (m, result, events) := f m
    ({ s with host := (s.host.setMonitor id m).note events }, result)

/-- Runs an operation of the host that is told the number of the monitor. -/
def onHost (s : Session ids α) (f : Host ids α → Nat → Host ids α) : Session ids α :=
  match s.monitor with
  | none => s
  | some id => { s with host := f s.host id }

/-- Asks the monitor. -/
def ask {β : Type} (s : Session ids α) (f : Monitor → β) : Option β :=
  (s.monitor.bind s.host.monitor?).map f

/-- Registers a context by its label, with the bounds of the monitor or others; a context is
made when its label is first used. -/
def register (s : Session ids α) (name label : String) (context : Executor)
    (thresholds : Option Thresholds) : Session ids α :=
  let executors :=
    if s.host.executors.contains label then s.host.executors
    else s.host.executors.insert label context
  let s := { s with host := { s.host with executors } }
  (s.onMonitor () fun m =>
    let (m, events) := m.register name label (thresholds.getD m.thresholds)
    (m, (), events)).1

/-- Removes a context; says whether it was registered. -/
def unregister (s : Session ids α) (name : String) : Session ids α × Bool :=
  s.onMonitor false fun m =>
    let (m, found) := m.unregister name
    (m, found, [])

/-- Pings a context; says whether it is registered. -/
def ping (s : Session ids α) (name : String) (timeout : Span) : Session ids α × Bool :=
  match s.monitor with
  | none => (s, false)
  | some id =>
    let (host, found) := s.host.ping id name timeout
    ({ s with host }, found)

/-- Pings every context. -/
def pingAll (s : Session ids α) : Session ids α := s.onHost Host.pingAll

/-- Starts the periodic cycles. -/
def startMonitor (s : Session ids α) : Session ids α := s.onHost Host.startMonitor

/-- Stops the periodic cycles. -/
def stopMonitor (s : Session ids α) : Session ids α := s.onHost Host.stopMonitor

/-- The pings that wait at a context. -/
def pending (s : Session ids α) (label : String) : List Arrival :=
  (s.host.executors.get? label).elim [] Executor.waiting

/-- The session with other pings waiting at a context. -/
def withPending (s : Session ids α) (label : String) (arrivals : List Arrival) : Session ids α :=
  match s.host.executors.get? label with
  | none => s
  | some e =>
    { s with host := { s.host with
        executors := s.host.executors.insert label (e.withWaiting arrivals) } }

/-- Acknowledges a ping. -/
def acknowledge (s : Session ids α) (a : Arrival) : Session ids α :=
  { s with host := s.host.acknowledge a }

/-- Acknowledges all pings that wait at a context; says how many. -/
def drain (s : Session ids α) (label : String) : Session ids α × Nat :=
  let arrivals := s.pending label
  (arrivals.foldl acknowledge (s.withPending label []), arrivals.length)

/-- Takes away one of the pings that wait at a context, if there are so many. -/
def takePending (s : Session ids α) (label : String) (index : Nat) :
    Session ids α × Option Arrival :=
  let arrivals := s.pending label
  match arrivals[index]? with
  | none => (s, none)
  | some a => (s.withPending label (arrivals.eraseIdx index), some a)

/-- Acknowledges one of the pings that wait at a context; says whether there are so many. -/
def runPending (s : Session ids α) (label : String) (index : Nat) : Session ids α × Bool :=
  match s.takePending label index with
  | (s, some a) => (s.acknowledge a, true)
  | (s, none) => (s, false)

/-- Loses one of the pings that wait at a context; says whether there are so many. -/
def dropPending (s : Session ids α) (label : String) (index : Nat) : Session ids α × Bool :=
  let (s, a) := s.takePending label index
  (s, a.isSome)

/-- Shuts down a context that works through its pings one by one. -/
def shutdownQueue (s : Session ids α) (label : String) : Session ids α :=
  match s.host.executors.get? label with
  | none => s
  | some e => { s with host := { s.host with
      executors := s.host.executors.insert label e.shutdown } }

end Vigil.Session
