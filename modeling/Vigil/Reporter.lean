import Vigil.Interceptor
import Vigil.Marker.Store

/-!
# Reporter

The reporter of crashes.  `install` looks for a marker that an earlier session left, leaves one
of its own and arms the interceptors; `uninstall` disarms them and deletes the marker.  A
session that ends without it leaves its marker behind as evidence.
-/

namespace Vigil

/-- What the marker of an earlier session says. -/
structure PriorCrash where
  raw : List Char
  /-- The marker, if it can be read. -/
  marker : Option Marker
  deriving DecidableEq

/-- Where a reporter is in its life. -/
inductive ReporterState where
  | idle
  | armed
  /-- Armed, and a fault was recorded. -/
  | faulted
  | uninstalled
  deriving DecidableEq, Repr

/-- The name of a state in the log. -/
def ReporterState.name : ReporterState → String
  | idle => "Idle"
  | armed => "Armed"
  | faulted => "Faulted"
  | uninstalled => "Uninstalled"

/-- A reporter of crashes. -/
structure Reporter where
  markerPath : String
  logPath : String
  version : String
  /-- Which registry its reports describe. -/
  registry : Nat
  interceptors : List Interceptor
  /-- Where it is in its life, but for faults that interceptors recorded. -/
  stored : ReporterState
  /-- The capture that faults are recorded with while it is installed. -/
  capture : Option Nat
  /-- What the last installation found: nothing, or a crash. -/
  prior : Option (Option PriorCrash)
  deriving DecidableEq

namespace Reporter

/-- A reporter that was never installed. -/
def new (markerPath logPath version : String) (registry : Nat) (interceptors : List Interceptor) :
    Reporter :=
  ⟨markerPath, logPath, version, registry, interceptors, .idle, none, none⟩

/-- The marker of this session. -/
def ownMarker (r : Reporter) (p : Platform) : Marker := ⟨p.wall, p.pid, r.version⟩

/-- What is logged about an earlier crash. -/
def priorNotice (c : PriorCrash) : Notice :=
  match c.marker with
  | some m => .priorCrash m
  | none => .priorCrashUnread (String.ofList (Text.trim c.raw))

/-- Reports and deletes the marker that an earlier session left. -/
def takePrior (r : Reporter) (p : Platform) : Platform × Option PriorCrash :=
  match Marker.read p.files r.markerPath with
  | (none, events) => (p.note events, none)
  | (some raw, events) =>
    let crash : PriorCrash := ⟨raw, Marker.parse? raw⟩
    let p := p.note (events ++ [priorNotice crash])
    match Marker.remove p.files r.markerPath with
    | (files, .ok _) => ({ p with files }, some crash)
    | (files, .error e) => ({ p with files }.note [.staleMarkerKept e], some crash)

/-- Writes the marker of this session. -/
def leaveMarker (r : Reporter) (p : Platform) : Platform :=
  match Marker.write p.files r.markerPath (r.ownMarker p) with
  | (files, .ok ()) => { p with files }
  | (files, .error e) => { p with files }.note [.markerNotWritten e]

/-- Deletes the marker, with an event if that fails. -/
def deleteMarker (r : Reporter) (kept : Error → Notice) (p : Platform) : Platform :=
  match Marker.remove p.files r.markerPath with
  | (files, .ok _) => { p with files }
  | (files, .error e) => { p with files }.note [kept e]

/-- Undoes the arming of the first `n` interceptors and deletes the marker. -/
def rollBack (r : Reporter) (n : Nat) (p : Platform) : Reporter × Platform :=
  let (front, p) := Interceptor.disarmAll (r.interceptors.take n) p
  let r := { r with interceptors := front ++ r.interceptors.drop n }
  (r, r.deleteMarker .markerKeptAfterFailure p)

/-- Installs the reporter: what it found of an earlier session, or why an interceptor refused. -/
def install (r : Reporter) (p : Platform) :
    Reporter × Platform × Except Error (Option PriorCrash) :=
  if r.capture.isSome then
    (r, p.note [.alreadyInstalled r.stored.name], .ok (r.prior.getD none))
  else
    let (p, prior) := r.takePrior p
    let r := { r with prior := some prior }
    let p := r.leaveMarker p
    let capture := p.captures.length
    let p := p.addCapture r.registry r.logPath
    let (interceptors, p, n, refusal) := Interceptor.armAll capture r.interceptors p
    let r := { r with interceptors }
    match refusal with
    | some refusal =>
      let (r, p) := r.rollBack n (p.note [.armFailed refusal.interceptor refusal.error])
      (r, p, .error refusal.error)
    | none => ({ r with capture := some capture, stored := .armed }, p, .ok prior)

/-- Whether an uninstallation has something to undo. -/
def isInstalled (r : Reporter) : Bool := r.stored = .armed || r.stored = .faulted

/-- The first part of an uninstallation: the interceptors are disarmed. -/
def release (r : Reporter) (p : Platform) : Reporter × Platform :=
  let (interceptors, p) := Interceptor.disarmAll r.interceptors p
  ({ r with interceptors, capture := none, stored := .uninstalled }, p)

/-- Uninstalls the reporter; one that is not installed is left alone. -/
def uninstall (r : Reporter) (p : Platform) : Reporter × Platform :=
  if r.isInstalled then
    let (r, p) := r.release p
    (r, r.deleteMarker .markerKept p)
  else (r, p)

/-- Records a fault; says whether its report is in the log. -/
def recordFault (r : Reporter) (fault : Fault) (p : Platform) : Reporter × Platform × Bool :=
  let r := if r.stored = .armed then { r with stored := .faulted } else r
  match r.capture with
  | some capture => (r, p.record capture fault)
  | none => (r, (p.addCapture r.registry r.logPath).record p.captures.length fault)

/-- Where the reporter is in its life. -/
def state (r : Reporter) (p : Platform) : ReporterState :=
  match r.stored, r.capture with
  | .armed, some id => if 0 < (p.captures[id]?.elim 0 (·.recorded)) then .faulted else .armed
  | state, _ => state

/-- What becomes of the platform when a reporter goes away without being uninstalled. -/
def drop (r : Reporter) (p : Platform) : Platform :=
  r.interceptors.foldl (fun p i => i.drop p) p

end Reporter
end Vigil
