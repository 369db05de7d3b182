import Vigil.Clock.Basic

/-!
# Clock — Ticker

Something that ticks once per period.  A ticker that is looked at too late follows one of two
plans: it makes up every tick that it missed and keeps to its timetable, or it ticks once and
begins a new timetable there.
-/

namespace Vigil

/-- What becomes of ticks that were missed. -/
inductive Missed where
  /-- Each is made up at once, and the timetable stays. -/
  | madeUp
  /-- They are dropped, and the timetable begins anew with the late tick. -/
  | dropped
  deriving DecidableEq, Repr

/-- A periodic timer. -/
structure Ticker where
  /-- When the next tick is due. -/
  next : Tick
  period : Span
  missed : Missed
  deriving DecidableEq, Repr

namespace Ticker

/-- A ticker whose first tick is one period from `now`. -/
def new (period : Span) (missed : Missed) (now : Tick) : Ticker := ⟨now + period, period, missed⟩

/-- How late a tick may be and still count as on time. -/
def tolerance : Span := .ofMillis 5

/-- When the ticker next has to be looked at; one without a period never ticks. -/
def deadline? (t : Ticker) : Option Tick := if t.period = 0 then none else some t.next

/-- How many ticks of the timetable are due. -/
def due (t : Ticker) (now : Tick) : Nat :=
  if t.period = 0 ∨ now < t.next then 0 else (now - t.next) / t.period + 1

/-- Looks at the ticker: how often it ticks now, and the ticker afterwards. -/
def fire (t : Ticker) (now : Tick) : Nat × Ticker :=
  let n := t.due now
  if n = 0 then (0, t)
  else if t.missed = .dropped ∧ t.next + tolerance < now then (1, { t with next := now + t.period })
  else (n, { t with next := t.next + n * t.period })

end Ticker
end Vigil
