import Vigil.Clock.Basic
import Vigil.Json
import Vigil.Number.Shortest

/-!
# Health — Probe

What is known of one execution context from the pings sent to it.  Pings are numbered by
generation; `issue`, `acknowledge` and `timeOut` record what happens to them, and `statusAt`
classifies the context.
-/

namespace Vigil.Health

/-- The bounds by which a context is classified. -/
structure Thresholds where
  /-- A longer wait makes it degraded. -/
  warn : Span
  /-- A longer wait makes it unresponsive. -/
  fail : Span
  /-- So many timeouts in a row make it unresponsive. -/
  maxTimeouts : Nat
  deriving DecidableEq, Repr

/-- How a context does. -/
inductive Status where
  | healthy
  /-- Slow: the wait that was measured or goes on. -/
  | degraded (latency : Span)
  | unresponsive
  deriving DecidableEq, Repr

namespace Status
open Number

/-- Whether a context needs no attention. -/
def isHealthy (s : Status) : Bool := s = .healthy

/-- The status in words, a wait in thousandths of a second. -/
def text : Status → List Char
  | .healthy => "healthy".toList
  | .degraded latency =>
    "degraded(".toList ++ (Binary64.seconds latency).toFixed 3 ++ "s)".toList
  | .unresponsive => "unresponsive".toList

/-- The status as a JSON object, a wait in seconds. -/
def toJson : Status → Json
  | .healthy => .object [("state".toList, .string "healthy".toList)]
  | .degraded latency => .object [
      ("state".toList, .string "degraded".toList),
      ("latency".toList, .number (Binary64.seconds latency).toJson)]
  | .unresponsive => .object [("state".toList, .string "unresponsive".toList)]

end Status

/-- Whether an answer is waited for. -/
inductive Phase where
  | idle
  /-- Some ping is not acknowledged: since when that is so, and the newest generation. -/
  | awaiting (since : Tick) (generation : Nat)
  deriving DecidableEq, Repr

/-- The history of the pings to one context. -/
structure Probe where
  thresholds : Thresholds
  /-- When the newest ping was issued. -/
  sentAt : Option Tick
  /-- The round trip of the ping that was acknowledged last. -/
  latency : Option Span
  /-- The timeouts since the last acknowledgement. -/
  timeouts : Nat
  phase : Phase
  /-- The generation of the next ping. -/
  nextGeneration : Nat
  /-- The greatest generation that was acknowledged. -/
  acked : Option Nat
  deriving DecidableEq, Repr

namespace Probe

/-- A context that was never pinged. -/
def new (thresholds : Thresholds) : Probe := ⟨thresholds, none, none, 0, .idle, 0, none⟩

/-- Issues the ping of the next generation; the wait goes on where one is under way. -/
def issue (p : Probe) (now : Tick) : Probe :=
  { p with
    nextGeneration := p.nextGeneration + 1
    sentAt := some now
    phase := match p.phase with
      | .idle => .awaiting now p.nextGeneration
      | .awaiting since _ => .awaiting since p.nextGeneration }

/-- The wait after the acknowledgement of a generation: it is over with the newest one, and
otherwise counts from when the newest ping was issued. -/
def phaseAfter (p : Probe) (generation : Nat) : Phase :=
  match p.phase with
  | .idle => .idle
  | .awaiting since newest =>
    if newest ≤ generation then .idle
    else .awaiting (p.sentAt.getD since) newest

/-- Records the acknowledgement of a ping. -/
def acknowledge (p : Probe) (generation : Nat) (issuedAt now : Tick) : Probe :=
  { p with
    latency := some (now - issuedAt)
    timeouts := 0
    acked := match p.acked with
      | none => some generation
      | some a => some (max a generation)
    phase := p.phaseAfter generation }

/-- Whether a ping, or a later one, was acknowledged. -/
def isSettled (p : Probe) (generation : Nat) : Bool :=
  match p.acked with
  | none => false
  | some a => generation ≤ a

/-- Counts a timeout of a ping that is not settled; says whether it did. -/
def timeOut (p : Probe) (generation : Nat) : Probe × Bool :=
  if p.isSettled generation then (p, false) else ({ p with timeouts := p.timeouts + 1 }, true)

/-- Classifies a wait. -/
def classify (t : Thresholds) (wait : Span) : Status :=
  if t.fail < wait then .unresponsive
  else if t.warn < wait then .degraded wait
  else .healthy

/-- Classifies by the last round trip; a context that never answered is given the time of its
first ping. -/
def statusByLatency (p : Probe) : Status :=
  match p.latency with
  | some latency => classify p.thresholds latency
  | none => match p.phase with
    | .awaiting .. => .healthy
    | .idle => .unresponsive

/-- Classifies the context: by timeouts first, then by a wait that goes on, then by the last
round trip. -/
def statusAt (p : Probe) (now : Tick) : Status :=
  if p.thresholds.maxTimeouts ≤ p.timeouts then .unresponsive
  else match p.phase with
    | .idle => p.statusByLatency
    | .awaiting since _ =>
      match classify p.thresholds (now - since) with
      | .healthy => p.statusByLatency
      | slow => slow

end Probe
end Vigil.Health
