import Vigil.Config.Basic
import Vigil.Host.Time
import Vigil.Reporter

/-!
# Context

The registry, the monitor and the reporter of one program, started and shut down together.
-/

namespace Vigil

/-- The diagnostics of one program. -/
structure Context where
  config : Config
  registry : Nat
  monitor : Nat
  reporter : Reporter
  /-- Whether there was a shutdown: sweepers that are started later end at once. -/
  cancelled : Bool
  /-- The sweeper since the last shutdown. -/
  sweeper : Option Nat
  deriving DecidableEq

namespace Context
variable {ids : Nat → String} {α : Type}

/-- The interceptors that a configuration asks for. -/
def interceptors (c : Config) : List Interceptor :=
  (if c.crash.capturePanics then [.panicHook {}] else []) ++
    (if c.crash.captureSignals then [.fatalSignals []] else [])

/-- The bounds for contexts that are registered without their own. -/
def thresholds (s : HealthSettings) : Health.Thresholds :=
  ⟨.ofMillis s.warnMillis, .ofMillis s.failMillis, s.maxTimeouts⟩

/-- The diagnostics that a configuration asks for, around a reporter with the given
interceptors. -/
def new (config : Config) (interceptors : List Interceptor) (h : Host ids α) :
    Context × Host ids α :=
  let registry := h.platform.registries.length
  let monitor := h.monitors.length
  let platform := h.platform.addRegistry config.tasks.retention config.tasks.sweepInterval
  let h := { h with platform }.addMonitor {
    thresholds := thresholds config.health
    interval := config.health.interval
    pingTimeout := config.health.pingTimeout }
  let reporter := .new config.markerPath config.logPath config.version registry interceptors
  (⟨config, registry, monitor, reporter, false, none⟩, h)

/-- What came of a start. -/
inductive Started where
  /-- Everything runs; what was found of an earlier session. -/
  | running (prior : Option PriorCrash)
  /-- Nothing was started, since an interceptor refused. -/
  | refused (error : Error)
  /-- The start ended in a panic, since the first sweep lies past the end of the clock. -/
  | panicked
  deriving DecidableEq

/-- The message of a panic about the end of the clock. -/
def clockPanic : String := "overflow when adding duration to instant"

/-- Starts a sweeper, unless there is one; `none` if its first sweep lies past the end of the
clock. -/
def startSweeper? (c : Context) (h : Host ids α) : Option (Context × Host ids α) :=
  match c.sweeper with
  | some _ => some (c, h)
  | none => (h.startSweep? c.registry c.cancelled).map fun (h, id) =>
    ({ c with sweeper := some id }, h)

/-- Installs the reporter, then starts the monitor and a sweeper. -/
def start (c : Context) (h : Host ids α) : Context × Host ids α × Started :=
  match c.reporter.install h.platform with
  | (reporter, platform, .error e) => ({ c with reporter }, { h with platform }, .refused e)
  | (reporter, platform, .ok prior) =>
    let c := { c with reporter }
    let h := { h with platform }.startMonitor c.monitor
    match c.startSweeper? h with
    | some (c, h) => (c, h, .running prior)
    | none => (c, h.panic clockPanic, .panicked)

/-- Stops the monitor and the sweeper, then uninstalls the reporter. -/
def shutdown (c : Context) (h : Host ids α) : Context × Host ids α :=
  let h := h.stopMonitor c.monitor
  let h := match c.sweeper with
    | none => h
    | some id => h.cancelSweep id
  let (reporter, platform) := c.reporter.uninstall h.platform
  ({ c with reporter, cancelled := true, sweeper := none }, { h with platform })

/-- What becomes of the host when the diagnostics go away without a shutdown: the monitor stops,
and panics are observed no more. -/
def drop (c : Context) (h : Host ids α) : Host ids α :=
  let h := h.stopMonitor c.monitor
  { h with platform := c.reporter.drop h.platform }

end Context
end Vigil
