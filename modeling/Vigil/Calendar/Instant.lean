import Vigil.Calendar.Date

/-!
# Calendar — Instant

Points of universal time to the nanosecond.  A leap second is the last second of its minute with
a thousand million nanoseconds or more.  An instant can hold as many nanoseconds at any second, but
a clock shows no such time (`ofUnix?`).
-/

namespace Vigil

/-- A point of universal time. -/
structure Instant where
  /-- Seconds since the start of 1970, leap seconds not counted. -/
  seconds : Int
  /-- Nanoseconds into that second; those of a leap second go on after 999999999. -/
  nanos : Nat
  nanos_lt : nanos < 2000000000
  deriving DecidableEq

namespace Instant

/-- The first and the last year that a wall clock can show. -/
def years : Int × Int := (-262143, 262142)

/-- The instant of a Unix time, if the clock can show it and `nanos` is within its second, which
only the last second of a minute has more than a thousand million of. -/
def ofUnix? (seconds : Int) (nanos : Nat) : Option Instant :=
  let year := (Date.ofDays (seconds / 86400)).year
  if years.1 ≤ year && year ≤ years.2 then
    if h : nanos < 2000000000 ∧ (1000000000 ≤ nanos → seconds % 60 = 59) then
      some ⟨seconds, nanos, h.1⟩
    else none
  else none

/-- The date. -/
def date (t : Instant) : Date := Date.ofDays (t.seconds / 86400)

/-- The seconds since midnight. -/
def secondOfDay (t : Instant) : Nat := (t.seconds % 86400).toNat

/-- Hour, minute and second, a leap second counting with the one before it. -/
def clock (t : Instant) : Nat × Nat × Nat :=
  (t.secondOfDay / 3600, t.secondOfDay / 60 % 60, t.secondOfDay % 60)

end Instant
end Vigil
