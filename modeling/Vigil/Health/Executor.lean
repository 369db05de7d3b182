import Vigil.Health.Monitor

/-!
# Health — Executor

Execution contexts as the monitor sees them: a ping that arrives waits to be acknowledged, is
acknowledged soon or at once, or is lost.
-/

namespace Vigil.Health

/-- A ping that arrived, and the monitor that sent it. -/
structure Arrival where
  monitor : Nat
  ping : Ping
  deriving DecidableEq, Repr

/-- An execution context. -/
inductive Executor where
  /-- Pings wait, in order, until they are asked for. -/
  | manual (waiting : List Arrival)
  /-- A ping is acknowledged as soon as what runs now is done. -/
  | runtime
  /-- A ping is acknowledged at once, or lost after a shutdown. -/
  | serial (isOpen : Bool)
  deriving DecidableEq, Repr

namespace Executor

/-- The pings that wait. -/
def waiting : Executor → List Arrival
  | .manual waiting => waiting
  | _ => []

/-- The context with other pings waiting. -/
def withWaiting (e : Executor) (arrivals : List Arrival) : Executor :=
  match e with
  | .manual _ => .manual arrivals
  | e => e

/-- The context after a shutdown. -/
def shutdown : Executor → Executor
  | .serial _ => .serial false
  | e => e

end Executor
end Vigil.Health
