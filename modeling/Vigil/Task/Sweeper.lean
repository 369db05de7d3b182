import Vigil.Clock.Ticker
import Vigil.Task.Registry

/-!
# Task — Sweeper

A sweep of a registry once per sweep interval, so that tasks that ended long ago go away also
when no task starts.
-/

namespace Vigil.Task

/-- A periodic sweep, until it is cancelled. -/
structure Sweeper where
  ticker : Ticker
  /-- Whether it still runs. -/
  isLive : Bool
  deriving DecidableEq, Repr

namespace Sweeper

/-- A sweeper that first sweeps one interval from `now`. -/
def new (interval : Span) (now : Tick) : Sweeper := ⟨.new interval .madeUp now, true⟩

/-- The sweeper after it is cancelled. -/
def cancel (s : Sweeper) : Sweeper := { s with isLive := false }

/-- When the next sweep is due. -/
def deadline? (s : Sweeper) : Option Tick := if s.isLive then s.ticker.deadline? else none

/-- Makes the sweeps that are due: several at one instant do what one does. -/
def run (s : Sweeper) (r : Registry) (now : Tick) : Sweeper × Registry :=
  if !s.isLive then (s, r)
  else
    let (n, ticker) := s.ticker.fire now
    ({ s with ticker }, if n = 0 then r else r.sweep now)

end Sweeper
end Vigil.Task
