/-!
# Clock — Basic

The monotonic clock: instants and spans are both counted in nanoseconds, so the span from an
instant to an earlier one is zero.
-/

namespace Vigil

/-- Nanoseconds since the machine was started, on a clock that never runs back. -/
abbrev Tick := Nat

/-- A length of time in nanoseconds. -/
abbrev Span := Nat

namespace Span

/-- A span of whole milliseconds. -/
def ofMillis (n : Nat) : Span := n * 1000000

/-- A span of whole seconds. -/
def ofSeconds (n : Nat) : Span := n * 1000000000

/-- The whole milliseconds of a span. -/
def millis (d : Span) : Nat := d / 1000000

end Span

namespace Tick

/-- The instant a span after another, if the clock can tell it: its seconds have to fit in 63
bits. -/
def after? (t : Tick) (d : Span) : Option Tick :=
  if t + d < Nat.pow 2 63 * 1000000000 then some (t + d) else none

end Tick
end Vigil
