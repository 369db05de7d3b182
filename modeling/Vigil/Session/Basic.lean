import Vigil.Context
import Vigil.Task.Snapshot

/-!
# Session — Basic

A session at a console: a host with the components that commands are for, under a clock that
moves only when a command says so.
-/

namespace Vigil

/-- A host and the components that commands are for. -/
structure Session (ids : Nat → String) (α : Type) where
  host : Host ids α
  /-- The registry that commands are for. -/
  registry : Nat
  /-- The monitor that commands are for. -/
  monitor : Option Nat
  /-- A reporter outside any context. -/
  reporter : Option Reporter
  context : Option Context
  /-- A capture outside any reporter. -/
  capture : Option Nat
  /-- Interceptors outside any reporter; one that is gone leaves its place empty. -/
  interceptors : List (Option Interceptor)
  /-- The operations by label. -/
  operations : Table Nat
  /-- A sweeper outside any context. -/
  sweep : Option Nat
  /-- The path of a marker file outside any reporter. -/
  store : Option String

namespace Session
variable {ids : Nat → String} {α : Type}

/-- A session with nothing but a registry. -/
def new (p : Platform) (retention sweepInterval : Span) : Session ids α where
  host := .new (p.addRegistry retention sweepInterval)
  registry := p.registries.length
  monitor := none
  reporter := none
  context := none
  capture := none
  interceptors := []
  operations := .empty
  sweep := none
  store := none

/-- The state that all parts share. -/
def platform (s : Session ids α) : Platform := s.host.platform

/-- The monotonic clock. -/
def now (s : Session ids α) : Tick := s.host.now

/-- The session with the platform changed. -/
def withPlatform (s : Session ids α) (p : Platform) : Session ids α :=
  { s with host := { s.host with platform := p } }

/-- The session with the files changed. -/
def withFiles (s : Session ids α) (files : Tree) : Session ids α :=
  s.withPlatform { s.platform with files }

/-- Adds a monitor. -/
def addMonitor (s : Session ids α) (m : Health.Monitor) : Session ids α :=
  { s with host := s.host.addMonitor m, monitor := some s.host.monitors.length }

/-- Adds the context that a configuration asks for; one that was there goes away without a
shutdown. -/
def addContext (s : Session ids α) (config : Config) (interceptors : List Interceptor) :
    Session ids α :=
  let host := match s.context with
    | none => s.host
    | some c => c.drop s.host
  let (c, host) := Context.new config interceptors host
  { s with host, context := some c, registry := c.registry, monitor := some c.monitor }

/-- The reporter that commands are for. -/
def reporter? (s : Session ids α) : Option Reporter :=
  match s.context with
  | some c => some c.reporter
  | none => s.reporter

/-- The session with that reporter and the platform changed. -/
def withReporter (s : Session ids α) (r : Reporter) (p : Platform) : Session ids α :=
  let s := s.withPlatform p
  match s.context with
  | some c => { s with context := some { c with reporter := r } }
  | none => { s with reporter := some r }

/-- Runs all that is ready or due. -/
def settle (s : Session ids α) : Session ids α := { s with host := s.host.settle }

/-- Lets time pass, all that is due being done at its own deadline. -/
def sleep (s : Session ids α) (d : Span) : Session ids α := { s with host := s.host.sleep d }

/-- Lets time pass at once. -/
def jump (s : Session ids α) (d : Span) : Session ids α := { s with host := s.host.jump d }

/-- The events since they were last taken. -/
def takeEvents (s : Session ids α) : Session ids α × List Notice :=
  (s.withPlatform { s.platform with events := [] }, s.platform.events)

/-- The state of the registry. -/
def snapshot (s : Session ids α) : Task.Snapshot :=
  match s.platform.registries[s.registry]? with
  | some r => r.snapshot s.now
  | none => .ofRecords [] s.now

/-- The number of faults that the capture outside any reporter recorded. -/
def recorded? (s : Session ids α) : Option Nat :=
  s.capture.bind fun id => s.platform.captures[id]?.map (·.recorded)

end Session
end Vigil
