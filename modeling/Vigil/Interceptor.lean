import Vigil.Platform.Basic

/-!
# Interceptor

Adapters that lead fatal events to a capture.  Arming one that is armed changes nothing, and
disarming puts back what was there before.  The adapters are those of panics and of fatal signals,
and one that only counts; what else a caller may write as one is left out.
-/

namespace Vigil

/-- An observer of panics: what it observes as, and the hook that was there before it, while it
is armed. -/
structure PanicObserver where
  observer : Option Nat := none
  previous : Option Hook := none
  deriving DecidableEq, Repr

/-- An adapter for one kind of fatal event. -/
inductive Interceptor where
  | panicHook (state : PanicObserver)
  /-- Takes over the fatal signals; while it is armed it keeps what happened on each before. -/
  | fatalSignals (previous : List (Signal × Disposition))
  /-- Only counts how often it is armed and disarmed; the answers say when it refuses to be
  armed. -/
  | counting (answers : Answers Error)
  deriving DecidableEq, Repr

namespace Platform

/-- Sets what happens on a signal. -/
def setDisposition (p : Platform) (s : Signal) (d : Disposition) : Platform :=
  { p with disposition := fun s' => if s' = s then d else p.disposition s' }

/-- Asks the system to set what happens on a signal: what happened on it before, or why the system
refuses. -/
def redirect (p : Platform) (s : Signal) (d : Disposition) :
    Platform × Except String Disposition :=
  match p.answers.first with
  | some reason => ({ p with answers := p.answers.later }, .error reason)
  | none => ({ p.setDisposition s d with answers := p.answers.later }, .ok (p.disposition s))

/-- Why a signal is not captured. -/
def notCaptured (s : Signal) (reason : String) : Error :=
  .signal ("failed to install handler for " ++ s.name ++ ": " ++ reason)

/-- Has signals captured, one after the other, up to the first that the system refuses: what
happened before on those that are, and why that one is not. -/
def captureSignals : List Signal → Platform →
    List (Signal × Disposition) × Platform × Option Error
  | [], p => ([], p, none)
  | s :: rest, p =>
    match p.redirect s .captured with
    | (p, .error reason) => ([], p, some (notCaptured s reason))
    | (p, .ok before) =>
      let (previous, p, refusal) := captureSignals rest p
      ((s, before) :: previous, p, refusal)

/-- Puts back what happened on a signal before, unless the system refuses that. -/
def restore (p : Platform) (previous : Signal × Disposition) : Platform :=
  (p.redirect previous.1 previous.2).1

/-- Puts back what happened on signals before, the last one first; faults are recorded with no
capture then. -/
def releaseSignals (p : Platform) (previous : List (Signal × Disposition)) : Platform :=
  { previous.reverse.foldl restore p with target := none }

/-- Has the fatal signals captured: what happened on them before.  If the system refuses one, those
in front of it are released again. -/
def takeSignals (p : Platform) (capture : Nat) :
    List (Signal × Disposition) × Platform × Except Error Unit :=
  match captureSignals Signal.fatal { p with target := some capture } with
  | (previous, p, none) => (previous, p, .ok ())
  | (previous, p, some e) => ([], p.releaseSignals previous, .error e)

/-- Stops an observer of panics. -/
def deactivate (p : Platform) (observer : Option Nat) : Platform :=
  { p with observers := p.observers.filter fun o => some o ≠ observer }

end Platform

namespace PanicObserver

/-- Puts itself in front of the hook. -/
def arm (o : PanicObserver) (capture : Nat) (p : Platform) : PanicObserver × Platform :=
  if o.previous.isSome then (o, p)
  else
    ({ observer := some p.nextObserver, previous := some p.hook },
      { p with
        hook := .observe p.nextObserver capture p.hook
        observers := p.nextObserver :: p.observers
        nextObserver := p.nextObserver + 1 })

/-- Makes the hook what it was. -/
def disarm (o : PanicObserver) (p : Platform) : PanicObserver × Platform :=
  let p := p.deactivate o.observer
  match o.previous with
  | none => (o, p)
  | some hook => ({ o with previous := none }, { p with hook })

end PanicObserver

namespace Interceptor

/-- The name in the log. -/
def name : Interceptor → String
  | .panicHook _ => "panic-hook"
  | .fatalSignals _ => "fatal-signals"
  | .counting _ => "counting"

/-- Leads fatal events to a capture. -/
def arm (i : Interceptor) (capture : Nat) (p : Platform) :
    Interceptor × Platform × Except Error Unit :=
  match i with
  | .panicHook o =>
    let (o, p) := o.arm capture p
    (.panicHook o, p, .ok ())
  | .fatalSignals [] =>
    let (previous, p, result) := p.takeSignals capture
    (.fatalSignals previous, p, result)
  | .fatalSignals previous => (.fatalSignals previous, p, .ok ())
  | .counting answers =>
    match answers.first with
    | none => (.counting answers.later, { p with armed := p.armed + 1 }, .ok ())
    | some e => (.counting answers.later, p, .error e)

/-- Leads them there no more. -/
def disarm (i : Interceptor) (p : Platform) : Interceptor × Platform :=
  match i with
  | .panicHook o =>
    let (o, p) := o.disarm p
    (.panicHook o, p)
  | .fatalSignals previous => (.fatalSignals [], p.releaseSignals previous)
  | .counting answers => (.counting answers, { p with disarmed := p.disarmed + 1 })

/-- What becomes of the platform when an interceptor goes away without being disarmed. -/
def drop (i : Interceptor) (p : Platform) : Platform :=
  match i with
  | .panicHook o => p.deactivate o.observer
  | _ => p

/-- Disarms interceptors in order. -/
def disarmAll : List Interceptor → Platform → List Interceptor × Platform
  | [], p => ([], p)
  | i :: rest, p =>
    let (i, p) := i.disarm p
    let (rest, p) := disarmAll rest p
    (i :: rest, p)

/-- Why an interceptor was not armed. -/
structure Refusal where
  interceptor : String
  error : Error
  deriving DecidableEq, Repr

/-- Arms interceptors in order up to the first that refuses: how many are armed, and the
refusal. -/
def armAll (capture : Nat) : List Interceptor → Platform →
    List Interceptor × Platform × Nat × Option Refusal
  | [], p => ([], p, 0, none)
  | i :: rest, p =>
    match i.arm capture p with
    | (i, p, .error e) => (i :: rest, p, 0, some ⟨i.name, e⟩)
    | (i, p, .ok ()) =>
      let (rest, p, n, refusal) := armAll capture rest p
      (i :: rest, p, n + 1, refusal)

end Interceptor
end Vigil
