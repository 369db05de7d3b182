import Vigil.Cli.Arguments
import Vigil.Config.Load
import Vigil.Context
import Vigil.Status

/-!
# Cli — Run

What a call of the program does to the files and shows.
-/

namespace Vigil.Cli

/-- How a call ends. -/
structure Exit where
  code : Nat
  /-- What is put out. -/
  output : String := ""
  /-- What is told as an error. -/
  error : Option Error := none
  deriving DecidableEq, Repr

/-- Shows what earlier sessions left. -/
def showStatus (t : Tree) (c : Config) (json : Bool) : Exit :=
  match (Status.collect t c).1 with
  | .error e => { code := 1, error := some e }
  | .ok s =>
    { code := 0, output := String.ofList (if json then s.toJson.pretty 0 ++ ['\n'] else s.toText) }

/-- The queue that the program watches beside its own runtime. -/
def workerName : String := "diag-worker"

/-- The name under which the program watches its own runtime. -/
def runtimeName : String := "tokio-runtime"

/-- Diagnostics that run. -/
structure Running where
  context : Context
  /-- It runs no operations, and gives out no ids. -/
  host : Host (fun _ => "") Empty

namespace Running

/-- Watches an execution context. -/
def watch (r : Running) (name : String) (e : Health.Executor) : Running :=
  let executors := r.host.executors.insert name e
  let h := { r.host with executors }
  match h.monitor? r.context.monitor with
  | none => { r with host := h }
  | some m =>
    let (m, events) := m.register name name m.thresholds
    { r with host := (h.setMonitor r.context.monitor m).note events }

/-- Starts the diagnostics on a platform. -/
def start (p : Platform) (c : Config) : Running × Context.Started :=
  let (context, host) := Context.new c (Context.interceptors c) (Host.new p)
  let r := ({ context, host : Running }.watch runtimeName .runtime).watch workerName (.serial true)
  let (context, host, started) := r.context.start r.host
  (⟨context, host.settle⟩, started)

/-- Shuts the diagnostics down. -/
def stop (r : Running) : Running :=
  let (context, host) := r.context.shutdown r.host
  ⟨context, host.settle⟩

/-- The files. -/
def files (r : Running) : Tree := r.host.platform.files

/-- Whether an earlier session crashed, as far as was logged. -/
def priorCrashLogged (r : Running) : Bool :=
  r.host.platform.events.any fun e => e.message = "previous session crashed"

end Running

/-- The code of a program that panics. -/
def panicCode : Nat := 101

/-- What came of a call. -/
inductive Result where
  /-- It is over. -/
  | ended (files : Tree) (exit : Exit)
  /-- The diagnostics run until a signal ends them. -/
  | running (r : Running)

/-- Carries out a call on a platform. -/
def execute (p : Platform) (args : List String) : Result :=
  match parse args with
  | .misuse => .ended p.files { code := 2 }
  | .explain topic => .ended p.files { code := 0, output := topic.text }
  | .execute a =>
    match Config.load p.files a.configPath with
    | .error e => .ended p.files { code := 1, error := some e }
    | .ok c => match a.command with
      | .status json => .ended p.files (showStatus p.files c json)
      | .run => match Running.start p c with
        | (r, .running _) => .running r
        | (r, .refused e) =>
          let r := r.stop
          .ended r.files { code := 1, error := some e }
        | (r, .panicked) => .ended r.files { code := panicCode }

end Vigil.Cli
