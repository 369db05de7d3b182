import Vigil.Clock.Ticker
import Vigil.Health.Probe
import Vigil.Notice
import Vigil.Table

/-!
# Health — Monitor

The monitor of execution contexts.  It pings each context that is registered, on demand or once
per interval, and checks each ping when its time is over.  A ping belongs to one registration:
what becomes of it is ignored once its name is registered anew.
-/

namespace Vigil.Health

/-- A ping that was issued. -/
structure Ping where
  probe : String
  /-- The number of the registration that it belongs to. -/
  epoch : Nat
  generation : Nat
  issuedAt : Tick
  deriving DecidableEq, Repr

/-- A ping that will be checked. -/
structure Check where
  ping : Ping
  timeout : Span
  deriving DecidableEq, Repr

/-- When the ping is checked. -/
def Check.deadline (c : Check) : Tick := c.ping.issuedAt + c.timeout

/-- The order in which pings are checked. -/
def Check.before (a b : Check) : Bool := a.deadline ≤ b.deadline

/-- A context under a name. -/
structure Registration where
  /-- The number of the registration. -/
  epoch : Nat
  /-- Which context is pinged. -/
  context : String
  probe : Probe
  deriving DecidableEq, Repr

/-- The registration after the next ping is issued. -/
def Registration.issue (r : Registration) (now : Tick) : Registration :=
  { r with probe := r.probe.issue now }

/-- A ping on its way to a context. -/
structure Delivery where
  context : String
  ping : Ping
  deriving DecidableEq, Repr

/-- A row of the report. -/
structure Row where
  name : String
  status : Status
  timeouts : Nat
  latency : Option Span
  deriving DecidableEq, Repr

/-- The registered contexts, and the pings that are under way. -/
structure Monitor where
  probes : Table Registration := .empty
  nextEpoch : Nat := 0
  /-- The bounds for contexts that are registered without their own. -/
  thresholds : Thresholds
  /-- The time from one cycle to the next. -/
  interval : Span
  /-- The time that a cycle leaves for an acknowledgement. -/
  pingTimeout : Span
  /-- The pings to be checked. -/
  checks : List Check := []
  /-- What starts the cycles while the monitor runs. -/
  ticker : Option Ticker := none

namespace Monitor

/-- Registers a context, in place of one with the same name. -/
def register (m : Monitor) (name context : String) (thresholds : Thresholds) :
    Monitor × List Notice :=
  ({ m with
      probes := m.probes.insert name ⟨m.nextEpoch, context, .new thresholds⟩
      nextEpoch := m.nextEpoch + 1 },
    if m.probes.contains name then [.probeReplaced name] else [])

/-- Removes a context; says whether it was registered. -/
def unregister (m : Monitor) (name : String) : Monitor × Bool :=
  ({ m with probes := m.probes.erase name }, m.probes.contains name)

/-- The registered names in order. -/
def names (m : Monitor) : List String := m.probes.keys

/-- The ping that a registration is issued next. -/
def nextPing (name : String) (r : Registration) (now : Tick) : Ping :=
  ⟨name, r.epoch, r.probe.nextGeneration, now⟩

/-- Pings one context, leaving it `timeout`. -/
def ping (m : Monitor) (name : String) (timeout : Span) (now : Tick) :
    Monitor × Option Delivery × List Notice :=
  match m.probes.get? name with
  | none => (m, none, [.unknownProbe name])
  | some r =>
    let ping := nextPing name r now
    ({ m with
        probes := m.probes.insert name (r.issue now)
        checks := m.checks ++ [⟨ping, timeout⟩] },
      some ⟨r.context, ping⟩, [])

/-- Pings every context. -/
def cycle (m : Monitor) (now : Tick) : Monitor × List Delivery :=
  let deliveries := m.probes.entries.map fun (name, r) => ⟨r.context, nextPing name r now⟩
  ({ m with
      probes := m.probes.map (·.issue now)
      checks := m.checks ++ deliveries.map fun d => ⟨d.ping, m.pingTimeout⟩ },
    deliveries)

/-- Pings every context `n` times. -/
def cycles (m : Monitor) (now : Tick) : Nat → Monitor × List Delivery
  | 0 => (m, [])
  | n + 1 =>
    let (m, first) := m.cycle now
    let (m, rest) := m.cycles now n
    (m, first ++ rest)

/-- The registration that a ping belongs to, if it still stands. -/
def registration? (m : Monitor) (ping : Ping) : Option Registration :=
  (m.probes.get? ping.probe).filter (·.epoch == ping.epoch)

/-- Records that a ping was acknowledged. -/
def acknowledge (m : Monitor) (ping : Ping) (now : Tick) : Monitor :=
  match m.registration? ping with
  | none => m
  | some r =>
    let probe := r.probe.acknowledge ping.generation ping.issuedAt now
    { m with probes := m.probes.insert ping.probe { r with probe } }

/-- Checks a ping whose time is over. -/
def check (m : Monitor) (c : Check) : Monitor × List Notice :=
  match m.registration? c.ping with
  | none => (m, [])
  | some r =>
    match r.probe.timeOut c.ping.generation with
    | (_, false) => (m, [])
    | (probe, true) =>
      ({ m with probes := m.probes.insert c.ping.probe { r with probe } },
        [.pingTimedOut c.ping.probe c.ping.generation probe.timeouts c.timeout.millis])

/-! ### What becomes of a registration -/

section
variable (m : Monitor)

theorem get?_register (name context : String) (thresholds : Thresholds) (key : String) :
    (m.register name context thresholds).1.probes.get? key =
      if key = name then some ⟨m.nextEpoch, context, .new thresholds⟩ else m.probes.get? key :=
  m.probes.get?_insert name key _

theorem get?_unregister (name key : String) :
    (m.unregister name).1.probes.get? key = if key = name then none else m.probes.get? key :=
  m.probes.get?_erase name key

theorem get?_ping (name : String) (timeout : Span) (now : Tick) (key : String) :
    (m.ping name timeout now).1.probes.get? key =
      (m.probes.get? key).map fun r => if key = name then r.issue now else r := by
  rw [ping]
  split
  next hn =>
    by_cases hk : key = name
    · rw [hk, hn]
      rfl
    · simp [hk]
  next r hr =>
    rw [Table.get?_insert]
    by_cases hk : key = name
    · simp [hk, hr]
    · simp [hk]

theorem get?_cycle (now : Tick) (key : String) :
    (m.cycle now).1.probes.get? key = (m.probes.get? key).map (·.issue now) :=
  m.probes.get?_map _ key

/-- A ping concerns the registration that it was issued under, and no other. -/
theorem registration?_eq_some {ping : Ping} {r : Registration} :
    m.registration? ping = some r ↔ m.probes.get? ping.probe = some r ∧ r.epoch = ping.epoch := by
  rw [registration?, Option.filter_eq_some_iff, beq_iff_eq]

/-- A change to the registration that a ping concerns, when there is none. -/
theorem get?_of_registration?_none {ping : Ping} (h : m.registration? ping = none)
    (f : Registration → Registration) (key : String) :
    m.probes.get? key = (m.probes.get? key).map fun r =>
      if key = ping.probe ∧ r.epoch = ping.epoch then f r else r := by
  cases hr : m.probes.get? key with
  | none => rfl
  | some r =>
    have hno : ¬ (key = ping.probe ∧ r.epoch = ping.epoch) := by
      rintro ⟨rfl, he⟩
      rw [m.registration?_eq_some.2 ⟨hr, he⟩] at h
      cases h
    rw [Option.map_some, if_neg hno]

/-- A change to the registration that a ping concerns. -/
theorem get?_of_registration?_some {ping : Ping} {r : Registration}
    (h : m.registration? ping = some r) (f : Registration → Registration) (key : String) :
    (m.probes.insert ping.probe (f r)).get? key = (m.probes.get? key).map fun r =>
      if key = ping.probe ∧ r.epoch = ping.epoch then f r else r := by
  obtain ⟨hr, he⟩ := m.registration?_eq_some.1 h
  rw [Table.get?_insert]
  by_cases hk : key = ping.probe
  · subst hk
    rw [if_pos rfl, hr, Option.map_some, if_pos ⟨rfl, he⟩]
  · simp [hk]

theorem get?_acknowledge (ping : Ping) (now : Tick) (key : String) :
    (m.acknowledge ping now).probes.get? key = (m.probes.get? key).map fun r =>
      if key = ping.probe ∧ r.epoch = ping.epoch then
        { r with probe := r.probe.acknowledge ping.generation ping.issuedAt now }
      else r := by
  rw [acknowledge]
  split
  next hn => exact m.get?_of_registration?_none hn _ key
  next r hr =>
    exact m.get?_of_registration?_some hr
      (fun r => { r with probe := r.probe.acknowledge ping.generation ping.issuedAt now }) key

theorem get?_check (c : Check) (key : String) :
    (m.check c).1.probes.get? key = (m.probes.get? key).map fun r =>
      if key = c.ping.probe ∧ r.epoch = c.ping.epoch then
        { r with probe := (r.probe.timeOut c.ping.generation).1 }
      else r := by
  rw [check]
  split
  next hn => exact m.get?_of_registration?_none hn _ key
  next r hr =>
    have hget := m.get?_of_registration?_some hr
      (fun r => { r with probe := (r.probe.timeOut c.ping.generation).1 }) key
    split
    next p hp =>
      -- The probe is as before, and so is the registration.
      have hsame : p = r.probe := by
        rw [Probe.timeOut] at hp
        split at hp <;> cases hp
        rfl
      rw [hp, hsame, Table.get?_insert] at hget
      rw [← hget]
      split
      next hk => rw [hk]; exact (m.registration?_eq_some.1 hr).1
      next => rfl
    next p hp =>
      rw [hp] at hget
      exact hget

theorem checks_ping (name : String) (timeout : Span) (now : Tick) :
    (m.ping name timeout now).1.checks =
      m.checks ++ (m.ping name timeout now).2.1.toList.map fun d => ⟨d.ping, timeout⟩ := by
  rw [ping]
  split
  next => exact (List.append_nil _).symm
  next => rfl

theorem checks_acknowledge (ping : Ping) (now : Tick) :
    (m.acknowledge ping now).checks = m.checks := by
  rw [acknowledge]
  split <;> rfl

theorem checks_check (c : Check) : (m.check c).1.checks = m.checks := by
  rw [check]
  split
  next => rfl
  next => split <;> rfl

theorem nextEpoch_ping (name : String) (timeout : Span) (now : Tick) :
    (m.ping name timeout now).1.nextEpoch = m.nextEpoch := by
  rw [ping]
  split <;> rfl

theorem nextEpoch_acknowledge (ping : Ping) (now : Tick) :
    (m.acknowledge ping now).nextEpoch = m.nextEpoch := by
  rw [acknowledge]
  split <;> rfl

theorem nextEpoch_check (c : Check) : (m.check c).1.nextEpoch = m.nextEpoch := by
  rw [check]
  split
  next => rfl
  next => split <;> rfl

end

/-- Whether cycles are started periodically. -/
def isRunning (m : Monitor) : Bool := m.ticker.isSome

/-- Runs a cycle, and from then on one per interval. -/
def start (m : Monitor) (now : Tick) : Monitor × List Delivery × List Notice :=
  if m.isRunning then (m, [], [.monitorRunning])
  else
    let (m, deliveries) := m.cycle now
    ({ m with ticker := some (.new m.interval .dropped now) }, deliveries, [])

/-- Stops the periodic cycles; pings under way are still checked. -/
def stop (m : Monitor) : Monitor := { m with ticker := none }

/-- When the monitor next has something to do. -/
def deadline? (m : Monitor) : Option Tick :=
  (((m.ticker.bind Ticker.deadline?).toList) ++ m.checks.map (·.deadline)).min?

/-- Makes checks one after the other. -/
def checkAll (m : Monitor) : List Check → Monitor × List Notice
  | [] => (m, [])
  | c :: rest =>
    let (m, first) := m.check c
    let (m, others) := m.checkAll rest
    (m, first ++ others)

/-- Makes the checks that are due, in the order of their deadlines. -/
def checkDue (m : Monitor) (now : Tick) : Monitor × List Notice :=
  let due := (m.checks.filter fun c => decide (c.deadline ≤ now)).mergeSort Check.before
  let m := { m with checks := m.checks.filter fun c => decide (now < c.deadline) }
  m.checkAll due

/-- Runs the cycles that are due. -/
def cycleDue (m : Monitor) (now : Tick) : Monitor × List Delivery :=
  match m.ticker with
  | none => (m, [])
  | some t =>
    let (n, t) := t.fire now
    let m := { m with ticker := some t }
    m.cycles now n

/-- How a context does. -/
def status? (m : Monitor) (name : String) (now : Tick) : Option Status :=
  (m.probes.get? name).map (·.probe.statusAt now)

/-- The timeouts of a context since it last answered. -/
def timeouts? (m : Monitor) (name : String) : Option Nat :=
  (m.probes.get? name).map (·.probe.timeouts)

/-- The report, a row for each context in the order of their names. -/
def report (m : Monitor) (now : Tick) : List Row :=
  m.probes.entries.map fun (name, r) =>
    ⟨name, r.probe.statusAt now, r.probe.timeouts, r.probe.latency⟩

/-- Whether every context is healthy. -/
def allHealthy (m : Monitor) (now : Tick) : Bool := (m.report now).all (·.status.isHealthy)

/-- The names of the contexts that are not healthy. -/
def unhealthy (m : Monitor) (now : Tick) : List String :=
  ((m.report now).filter (!·.status.isHealthy)).map (·.name)

end Monitor

namespace Row
open Number

/-- The last round trip in milliseconds. -/
def latencyMillis (r : Row) : Option Binary64 :=
  r.latency.map fun d => (Binary64.seconds d).mul (.ofNat 1000)

/-- The row as a JSON object. -/
def toJson (r : Row) : Json :=
  .object [
    ("name".toList, .ofString r.name),
    ("status".toList, r.status.toJson),
    ("consecutive_timeouts".toList, .ofNat r.timeouts),
    ("last_latency_ms".toList, r.latencyMillis.elim .null fun x => .number x.toJson)]

end Row
end Vigil.Health
