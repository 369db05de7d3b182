import Vigil.Session.Basic

/-!
# Session — Crash

Commands about the reporter, captures and interceptors outside it, the context, and marker files.
-/

namespace Vigil.Session
variable {ids : Nat → String} {α : Type}

/-- Installs the reporter; `none` without one. -/
def install (s : Session ids α) : Session ids α × Option (Except Error (Option PriorCrash)) :=
  match s.reporter? with
  | none => (s, none)
  | some r =>
    let (r, p, result) := r.install s.platform
    (s.withReporter r p, some result)

/-- Uninstalls the reporter. -/
def uninstall (s : Session ids α) : Session ids α :=
  match s.reporter? with
  | none => s
  | some r =>
    let (r, p) := r.uninstall s.platform
    s.withReporter r p

/-- Records a fault with the reporter; says whether its report is in the log. -/
def record (s : Session ids α) (fault : Fault) : Session ids α × Bool :=
  match s.reporter? with
  | none => (s, false)
  | some r =>
    let (r, p, written) := r.recordFault fault s.platform
    (s.withReporter r p, written)

/-- Puts a new reporter of the same files in the place of the reporter, which goes away without
being uninstalled; with a registry of its own it takes that of the session along. -/
def renewReporter (s : Session ids α) (version : String) (interceptors : List Interceptor)
    (registry : Option (Span × Span)) : Session ids α :=
  match s.reporter with
  | none => s
  | some r =>
    let s := s.withPlatform (r.drop s.platform)
    let s := match registry with
      | none => s
      | some (retention, sweepInterval) =>
        { s.withPlatform (s.platform.addRegistry retention sweepInterval) with
          registry := s.platform.registries.length }
    { s with reporter := some (.new r.markerPath r.logPath version s.registry interceptors) }

/-- A thread panics. -/
def panic (s : Session ids α) (message thread : Option String) : Session ids α :=
  s.withPlatform (s.platform.panic message thread)

/-- Makes a capture of the registry. -/
def newCapture (s : Session ids α) (logPath : String) : Session ids α :=
  { s.withPlatform (s.platform.addCapture s.registry logPath) with
    capture := some s.platform.captures.length }

/-- Records a fault with the capture; says whether its report is in the log. -/
def captureFault (s : Session ids α) (fault : Fault) : Session ids α × Bool :=
  match s.capture with
  | none => (s, false)
  | some id =>
    let (p, written) := s.platform.record id fault
    (s.withPlatform p, written)

/-- Records a fault with the capture as when a signal is handled; says whether its report is in
the log. -/
def captureSignalFault (s : Session ids α) (fault : Fault) : Session ids α × Bool :=
  match s.capture with
  | none => (s, false)
  | some id =>
    let (p, written) := s.platform.recordSignal id fault
    (s.withPlatform p, written)

/-- Handles a signal, with the capture or without; gives the signal that is handed on. -/
def captureSignal (s : Session ids α) (signal : Signal) (withCapture : Bool) :
    Session ids α × Signal :=
  let (p, signal) := s.platform.handleSignal (if withCapture then s.capture else none) signal
  (s.withPlatform p, signal)

/-- Arms an interceptor with the capture and keeps it. -/
def armNew (s : Session ids α) (i : Interceptor) : Session ids α × Except Error Unit :=
  match s.capture with
  | none => (s, .ok ())
  | some id =>
    let (i, p, result) := i.arm id s.platform
    ({ s.withPlatform p with interceptors := s.interceptors ++ [some i] }, result)

/-- The kept interceptor of a number. -/
def interceptor? (s : Session ids α) (index : Nat) : Option Interceptor :=
  s.interceptors[index]?.join

/-- Puts something in the place of a kept interceptor. -/
def withInterceptor (s : Session ids α) (index : Nat) (i : Option Interceptor) (p : Platform) :
    Session ids α :=
  { s.withPlatform p with interceptors := s.interceptors.set index i }

/-- Arms a kept interceptor with the capture. -/
def rearm (s : Session ids α) (index : Nat) : Session ids α × Except Error Unit :=
  match s.interceptor? index, s.capture with
  | some i, some id =>
    let (i, p, result) := i.arm id s.platform
    (s.withInterceptor index (some i) p, result)
  | _, _ => (s, .ok ())

/-- Disarms a kept interceptor. -/
def disarm (s : Session ids α) (index : Nat) : Session ids α :=
  match s.interceptor? index with
  | none => s
  | some i =>
    let (i, p) := i.disarm s.platform
    s.withInterceptor index (some i) p

/-- Lets a kept interceptor go without disarming it. -/
def dropInterceptor (s : Session ids α) (index : Nat) : Session ids α :=
  match s.interceptor? index with
  | none => s
  | some i => s.withInterceptor index none (i.drop s.platform)

/-- Starts the context; `none` without one. -/
def startContext (s : Session ids α) : Session ids α × Option Context.Started :=
  match s.context with
  | none => (s, none)
  | some c =>
    let (c, host, started) := c.start s.host
    ({ s with host, context := some c }, some started)

/-- Shuts the context down. -/
def shutdownContext (s : Session ids α) : Session ids α :=
  match s.context with
  | none => s
  | some c =>
    let (c, host) := c.shutdown s.host
    { s with host, context := some c }

/-- Reads the marker file. -/
def readStore (s : Session ids α) : Session ids α × Option (List Char) :=
  match s.store with
  | none => (s, none)
  | some path =>
    let (raw, events) := Marker.read s.platform.files path
    (s.withPlatform (s.platform.note events), raw)

/-- Writes the marker file. -/
def writeStore (s : Session ids α) (m : Marker) : Session ids α × Except Error Unit :=
  let (files, result) := Marker.write s.platform.files (s.store.getD "") m
  (s.withFiles files, result)

/-- Deletes the marker file; says whether there was one. -/
def removeStore (s : Session ids α) : Session ids α × Except Error Bool :=
  let (files, result) := Marker.remove s.platform.files (s.store.getD "")
  (s.withFiles files, result)

end Vigil.Session
