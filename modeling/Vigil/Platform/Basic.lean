import Vigil.Fault.Capture
import Vigil.Fault.Log
import Vigil.Notice
import Vigil.Platform.Answers
import Vigil.Platform.Hook
import Vigil.Task.Statistics

/-!
# Platform — Basic

What all parts of the diagnostics of one program share: the files, the clocks, the registries
and captures, the panic hook, the ways of fatal signals, and the log of events.
-/

namespace Vigil

/-- What happens on a signal. -/
inductive Disposition where
  /-- Something installed by others. -/
  | foreign (id : Nat)
  /-- The fault is recorded with the armed capture. -/
  | captured
  deriving DecidableEq, Repr

/-- The state that all parts of a program share. -/
structure Platform where
  files : Tree
  /-- The monotonic clock. -/
  now : Tick
  /-- The wall clock. -/
  wall : Instant
  pid : UInt32
  /-- Where panics are said to happen. -/
  site : String
  /-- The frames that are said to lead to a panic. -/
  frames : String
  registries : List Task.Registry
  /-- The registry that is in use just now. -/
  inUse : Option Nat
  captures : List Fault.Capture
  hook : Hook
  /-- The observers of panics that are active. -/
  observers : List Nat
  /-- The number of the next observer. -/
  nextObserver : Nat
  /-- How often the hook that the program began with ran. -/
  panics : Nat
  disposition : Signal → Disposition
  /-- What the system answers when it is asked to do something else on a signal. -/
  answers : Answers String
  /-- The capture that fatal signals are recorded with. -/
  target : Option Nat
  /-- How often interceptors that only count were armed. -/
  armed : Nat
  /-- How often interceptors that only count were disarmed. -/
  disarmed : Nat
  /-- The warnings and errors so far. -/
  events : List Notice

namespace Platform

/-- A platform on which nothing was done yet. -/
def new (files : Tree) (now : Tick) (wall : Instant) (pid : UInt32) (site frames : String) :
    Platform where
  files; now; wall; pid; site; frames
  registries := []
  inUse := none
  captures := []
  hook := .base
  observers := []
  nextObserver := 0
  panics := 0
  disposition := fun s => .foreign s.number
  answers := {}
  target := none
  armed := 0
  disarmed := 0
  events := []

/-- Logs events. -/
def note (p : Platform) (events : List Notice) : Platform :=
  { p with events := p.events ++ events }

/-- Adds a registry: its number is that of the registries before. -/
def addRegistry (p : Platform) (retention sweepInterval : Span) : Platform :=
  { p with registries := p.registries ++ [.new retention sweepInterval p.now] }

/-- Runs an operation on a registry; without the registry nothing happens. -/
def withRegistry {α : Type} (p : Platform) (id : Nat) (default : α)
    (f : Task.Registry → Task.Registry × α × List Notice) : Platform × α :=
  match p.registries[id]? with
  | none => (p, default)
  | some r =>
    let (r, result, events) := f r
    ({ p with registries := p.registries.set id r }.note events, result)

/-- The section about the tasks of a registry. -/
def statistics (p : Platform) (registry : Nat) : List (List Char) :=
  match p.registries[registry]? with
  | none => []
  | some r => Task.Statistics.pieces r (p.inUse = some registry) p.now

/-- Makes a capture: its number is that of the captures before. -/
def addCapture (p : Platform) (registry : Nat) (logPath : String) : Platform :=
  let (files, capture) := Fault.Capture.prepare p.files registry logPath
  { p with files, captures := p.captures ++ [capture] }

/-- The report of a fault for a capture. -/
def report (p : Platform) (c : Fault.Capture) (fault : Fault) : List Char :=
  Fault.Report.block p.wall fault (p.statistics c.registry)

/-- Records a fault with a capture; says whether the report is in the log. -/
def record (p : Platform) (capture : Nat) (fault : Fault) : Platform × Bool :=
  match p.captures[capture]? with
  | none => (p, false)
  | some c =>
    let (files, written) := Fault.Log.append p.files c.logPath (Text.encode (p.report c fault))
    ({ p with files, captures := p.captures.set capture c.count }.note
      [.faultCaptured (String.ofList fault.summary)], written)

/-- Records a fault while a signal is handled, unless that was done before; says whether the
report is in the log. -/
def recordSignal (p : Platform) (capture : Nat) (fault : Fault) : Platform × Bool :=
  match p.captures[capture]? with
  | none => (p, false)
  | some c =>
    if c.signalled then (p, false)
    else
      let p := { p with captures := p.captures.set capture c.signal }
      match c.logFile with
      | none => (p, false)
      | some id =>
        let bytes := Fault.Capture.signalBytes p.wall fault (p.statistics c.registry)
        ({ p with files := p.files.appendTo id bytes }, true)

/-- Handles a fatal signal: records it with a capture, if there is one, and hands it on. -/
def handleSignal (p : Platform) (capture : Option Nat) (s : Signal) : Platform × Signal :=
  match capture with
  | none => (p, s)
  | some id => ((p.recordSignal id (.ofSignal s)).1, s)

/-- Records a fault with several captures, one after the other. -/
def recordAll (p : Platform) (captures : List Nat) (fault : Fault) : Platform :=
  captures.foldl (fun p id => (p.record id fault).1) p

/-- The fault that a panic is: a message, if it is text, and the thread, if it has a name. -/
def panicFault (p : Platform) (message thread : Option String) : Fault :=
  .panic (message.getD "non-string panic payload") (some p.site) thread (some p.frames)

/-- A thread panics: the hook runs to its end. -/
def panic (p : Platform) (message thread : Option String) : Platform :=
  let captures := p.hook.captures p.observers.contains
  let p := p.recordAll captures (p.panicFault message thread)
  { p with panics := p.panics + 1 }

end Platform
end Vigil
