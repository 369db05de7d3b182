import Vigil.Clock.Basic
import Vigil.Files.Path

/-!
# Config — Basic

The configuration of the diagnostics and its defaults.  `Config.problem?` is the first reason
why a configuration cannot be used.
-/

namespace Vigil

/-- How long tasks that have ended are kept. -/
structure TaskSettings where
  retentionSeconds : Nat := 300
  sweepIntervalSeconds : Nat := 60
  deriving DecidableEq, Repr

/-- How often probes are pinged, and how slow they may be. -/
structure HealthSettings where
  intervalMillis : Nat := 5000
  pingTimeoutMillis : Nat := 3000
  warnMillis : Nat := 1000
  failMillis : Nat := 3000
  maxTimeouts : Nat := 3
  deriving DecidableEq, Repr

/-- Which faults are captured, and in which files. -/
structure CrashSettings where
  /-- The path of the marker within the data directory. -/
  markerFile : String := "session.marker"
  /-- The path of the crash log within the data directory. -/
  logFile : String := "crash.log"
  captureSignals : Bool := true
  capturePanics : Bool := true
  deriving DecidableEq, Repr

/-- The configuration of the diagnostics. -/
structure Config where
  /-- Where the marker and the crash log are. -/
  dataDir : String
  /-- The version that the marker names. -/
  version : String := "0.3.0"
  tasks : TaskSettings := {}
  health : HealthSettings := {}
  crash : CrashSettings := {}
  deriving DecidableEq, Repr

namespace TaskSettings

/-- How long a task that has ended is kept. -/
def retention (s : TaskSettings) : Span := .ofSeconds s.retentionSeconds

/-- The time from one sweep to the next. -/
def sweepInterval (s : TaskSettings) : Span := .ofSeconds s.sweepIntervalSeconds

end TaskSettings

namespace HealthSettings

/-- The time from one ping cycle to the next. -/
def interval (s : HealthSettings) : Span := .ofMillis s.intervalMillis

/-- The time in which a ping has to be acknowledged. -/
def pingTimeout (s : HealthSettings) : Span := .ofMillis s.pingTimeoutMillis

end HealthSettings

namespace Config

/-- The path of the marker. -/
def markerPath (c : Config) : String := Path.join c.dataDir c.crash.markerFile

/-- The path of the crash log. -/
def logPath (c : Config) : String := Path.join c.dataDir c.crash.logFile

/-- Why a configuration cannot be used. -/
inductive Problem where
  | noDataDir
  | noRetention
  | noSweepInterval
  | noPingTime
  | latenciesNotAscending (warnMillis failMillis : Nat)
  | noTimeouts
  | oneFileForBoth
  deriving DecidableEq, Repr

/-- The problem in words. -/
def Problem.message : Problem → String
  | noDataDir => "data_dir must not be empty"
  | noRetention => "tasks.retention_seconds must be greater than zero"
  | noSweepInterval => "tasks.sweep_interval_seconds must be greater than zero"
  | noPingTime => "health.interval_ms and health.ping_timeout_ms must be greater than zero"
  | latenciesNotAscending warn fail =>
    "health.warn_latency_ms (" ++ toString warn ++ ") must be below health.fail_latency_ms (" ++
      toString fail ++ ")"
  | noTimeouts => "health.max_consecutive_timeouts must be greater than zero"
  | oneFileForBoth => "crash.marker_file and crash.log_file must differ"

/-- The first problem of a configuration. -/
def problem? (c : Config) : Option Problem :=
  if c.dataDir = "" then some .noDataDir
  else if c.tasks.retentionSeconds = 0 then some .noRetention
  else if c.tasks.sweepIntervalSeconds = 0 then some .noSweepInterval
  else if c.health.intervalMillis = 0 ∨ c.health.pingTimeoutMillis = 0 then some .noPingTime
  else if c.health.failMillis ≤ c.health.warnMillis then
    some (.latenciesNotAscending c.health.warnMillis c.health.failMillis)
  else if c.health.maxTimeouts = 0 then some .noTimeouts
  else if c.crash.markerFile = c.crash.logFile then some .oneFileForBoth
  else none

end Config
end Vigil
