import Vigil.Config.Basic
import Vigil.Error
import Vigil.Files.Tree
import Vigil.Toml.Document

/-!
# Config — Load

Configurations as TOML documents: `Config.ofToml?` reads the fields of a document,
`Config.parse` a text and `Config.load` a file, and the latter two refuse a configuration that
cannot be used.
-/

namespace Vigil.Config

/-- Reads a text. -/
def text? : Toml → Option String
  | .text s => some (String.ofList s)
  | _ => none

/-- Reads a natural number below `bound`. -/
def natural? (bound : Nat) : Toml → Option Nat
  | .integer (.ofNat n) => if n < bound then some n else none
  | _ => none

/-- Reads a truth value. -/
def truth? : Toml → Option Bool
  | .truth b => some b
  | _ => none

/-- Whether a value may stand for a section of `size` settings: a table of them, or the first
ones in order; a date has none of them. -/
def isSection (size : Nat) : Toml → Bool
  | .table _ | .moment => true
  | .array items => items.length ≤ size
  | _ => false

/-- What a section says about the setting of a name and a position. -/
def setting? (name : String) (position : Nat) : Toml → Option Toml
  | .table fields => fields.lookup name.toList
  | .array items => items[position]?
  | _ => none

/-- A setting, or its default where the section is silent. -/
def setting {α : Type} (read : Toml → Option α) (name : String) (position : Nat) (default : α)
    (s : Toml) : Option α :=
  match setting? name position s with
  | none => some default
  | some v => read v

/-- Reads the settings about tasks. -/
def tasks? (s : Toml) : Option TaskSettings := do
  if isSection 2 s then
    let d : TaskSettings := {}
    let number := setting (natural? UInt64.size)
    some {
      retentionSeconds := ← number "retention_seconds" 0 d.retentionSeconds s
      sweepIntervalSeconds := ← number "sweep_interval_seconds" 1 d.sweepIntervalSeconds s }
  else none

/-- Reads the settings about health. -/
def health? (s : Toml) : Option HealthSettings := do
  if isSection 5 s then
    let d : HealthSettings := {}
    let number := setting (natural? UInt64.size)
    some {
      intervalMillis := ← number "interval_ms" 0 d.intervalMillis s
      pingTimeoutMillis := ← number "ping_timeout_ms" 1 d.pingTimeoutMillis s
      warnMillis := ← number "warn_latency_ms" 2 d.warnMillis s
      failMillis := ← number "fail_latency_ms" 3 d.failMillis s
      maxTimeouts := ← setting (natural? UInt32.size) "max_consecutive_timeouts" 4 d.maxTimeouts s }
  else none

/-- Reads the settings about crashes. -/
def crash? (s : Toml) : Option CrashSettings := do
  if isSection 4 s then
    let d : CrashSettings := {}
    some {
      markerFile := ← setting text? "marker_file" 0 d.markerFile s
      logFile := ← setting text? "log_file" 1 d.logFile s
      captureSignals := ← setting truth? "capture_signals" 2 d.captureSignals s
      capturePanics := ← setting truth? "capture_panics" 3 d.capturePanics s }
  else none

/-- Reads the fields of a document; those that mean nothing here are passed over. -/
def ofToml? (fields : List (List Char × Toml)) : Option Config := do
  let dataDir ← text? (← fields.lookup "data_dir".toList)
  let d : Config := { dataDir }
  let section? := fun {α : Type} (read : Toml → Option α) (name : String) (default : α) =>
    setting read name 0 default (.table fields)
  some {
    dataDir
    version := ← section? text? "app_version" d.version
    tasks := ← section? tasks? "tasks" d.tasks
    health := ← section? health? "health" d.health
    crash := ← section? crash? "crash" d.crash }

/-- A configuration that can be used. -/
def validate (c : Config) : Except Error Config :=
  match c.problem? with
  | none => .ok c
  | some p => .error (.config p.message)

/-- Reads a text. -/
def parse (s : List Char) : Except Error Config :=
  match (Toml.ofText? s).bind ofToml? with
  | none => .error (.config "invalid config")
  | some c => validate c

/-- Reads a file. -/
def load (t : Tree) (path : String) : Except Error Config :=
  match t.readText path with
  | .ok s => parse s
  | .error e =>
    if e.isNotFound then .error (.notFound ("config file " ++ path))
    else .error (.config ("failed to read config: " ++ e.message))

end Vigil.Config
