import Vigil.Proofs.Health.Flight
import Vigil.Proofs.Host.Run

/-!
# Health — the cadence of the cycles

A monitor on a clock that stops at each deadline until what is due was done.  It is started and
stopped by any calls, contexts are registered, removed and pinged, and pings are acknowledged, at
any times.  What is due at one instant is done in any order, before or after calls of that instant.

* `OnTime`, `Step.onTime`: nothing is late.
* `Step.plan`, `Step.checks`: what becomes of the ticker, and of the checks, is told by the event.
* `Ticking`, `Ticking.run`: the cycles since a start, as long as there is no stop.
* `Cycle`, `Step.cycle`: a cycle issues one ping to each context that is registered.
* `Settled`, `settled`: a ping that is issued is checked once, and acknowledged at most once.
* `run_checkDue`, `run_cycleDue`: a monitor that does what is due takes such steps.

**Main theorem** (`cadence`): when cycles are run, what they issue, and what becomes of pings when
the monitor is stopped.
-/

namespace Vigil

/-- A ticker that is looked at on time ticks once, and keeps to its timetable. -/
theorem Ticker.fire_on_time {t : Ticker} (hpos : 0 < t.period) :
    t.fire t.next = (1, { t with next := t.next + t.period }) := by
  have hdue : t.due t.next = 1 := by
    rw [due, if_neg (not_or.2 ⟨Nat.pos_iff_ne_zero.1 hpos, Nat.lt_irrefl _⟩), Nat.sub_self,
      Nat.zero_div]
  have hlate : ¬ (t.missed = .dropped ∧ t.next + tolerance < t.next) := fun h =>
    Nat.not_lt.2 (Nat.le_add_right _ _) h.2
  rw [fire, hdue, if_neg Nat.one_ne_zero, if_neg hlate, Nat.one_mul]

namespace Health

namespace Monitor
variable {m : Monitor} {now : Tick} {t : Ticker}

theorem start_of_stopped (h : m.ticker = none) :
    m.start now = ({ (m.cycle now).1 with ticker := some (.new m.interval .dropped now) },
      (m.cycle now).2, []) := by
  rw [start, isRunning, h]
  rfl

theorem start_of_running (h : m.ticker = some t) : m.start now = (m, [], [.monitorRunning]) := by
  rw [start, isRunning, h]
  rfl

/-- A cycle that is run on time. -/
theorem cycleDue_on_time (ht : m.ticker = some t) (hpos : 0 < t.period) :
    m.cycleDue t.next =
      { m with ticker := some { t with next := t.next + t.period } }.cycle t.next := by
  rw [cycleDue, ht]
  simp only [Ticker.fire_on_time hpos, cycles, List.append_nil]

/-- What is due at no time before `time`. -/
theorem le_of_deadline? {time : Tick} (h : ∀ d, m.deadline? = some d → time ≤ d) :
    (∀ t, m.ticker = some t → 0 < t.period → time ≤ t.next) ∧
      ∀ c ∈ m.checks, time ≤ c.deadline := by
  have hle : ∀ d ∈ (m.ticker.bind Ticker.deadline?).toList ++ m.checks.map (·.deadline),
      time ≤ d := by
    intro d hd
    obtain ⟨least, hleast⟩ := Option.isSome_iff_exists.1 (List.isSome_min?_of_mem hd)
    exact Nat.le_trans (h least hleast) ((List.min?_eq_some_iff.1 hleast).2 d hd)
  refine ⟨fun t ht hpos => hle _ (List.mem_append_left _ ?_), fun c hc =>
    hle _ (List.mem_append_right _ (List.mem_map_of_mem hc))⟩
  rw [ht, Option.bind_some, Ticker.deadline?, if_neg (Nat.pos_iff_ne_zero.1 hpos)]
  exact List.mem_singleton_self _

theorem timing_ping (m : Monitor) (name : String) (timeout : Span) (now : Tick) :
    Host.timing (m.ping name timeout now).1 = Host.timing m := by
  rw [ping]
  split <;> rfl

theorem timing_acknowledge (m : Monitor) (ping : Ping) (now : Tick) :
    Host.timing (m.acknowledge ping now) = Host.timing m := by
  rw [acknowledge]
  split <;> rfl

end Monitor

namespace Cadence

/-! ### Events and steps -/

/-- A monitor with the pings that were not acknowledged yet, and the clock. -/
structure Timed where
  flight : Flight
  now : Tick

namespace Timed

/-- A new monitor. -/
def new (thresholds : Thresholds) (interval pingTimeout : Span) (now : Tick) : Timed :=
  ⟨.new thresholds interval pingTimeout, now⟩

def monitor (s : Timed) : Monitor := s.flight.monitor

/-- The monitor has become another. -/
def set (s : Timed) (m : Monitor) : Timed := { s with flight := { s.flight with monitor := m } }

/-- It has issued pings. -/
def issue (s : Timed) (m : Monitor) (ds : List Delivery) : Timed :=
  { s with flight := ⟨m, s.flight.unanswered ++ ds.map (·.ping)⟩ }

end Timed

/-- The checks of pings that were issued. -/
def armed (timeout : Span) (ds : List Delivery) : List Check := ds.map fun d => ⟨d.ping, timeout⟩

/-- Something that happens. -/
inductive Act where
  /-- The monitor was started, and ran a cycle. -/
  | started (checks : List Check)
  /-- It was to be started, and was running. -/
  | refused
  | stopped
  /-- The time of a cycle had come. -/
  | ticked (checks : List Check)
  | registered (name : String) (r : Registration)
  | unregistered (name : String)
  /-- A caller pinged one context, or all of them. -/
  | pinged (checks : List Check)
  | acknowledged (ping : Ping)
  /-- The time of a ping was over. -/
  | checked (check : Check)
  | passed

/-- Something that happens, and when. -/
structure Event where
  time : Tick
  act : Act

/-- One thing after another.  The clock does not pass a deadline. -/
inductive Step : Timed → Event → Timed → Prop where
  | start (s : Timed) {m : Monitor} {ds : List Delivery} {notices : List Notice}
      (h : s.monitor.start s.now = (m, ds, notices)) (hn : .monitorRunning ∉ notices) :
      Step s ⟨s.now, .started (armed s.monitor.pingTimeout ds)⟩ (s.issue m ds)
  | refuse (s : Timed) {m : Monitor} {ds : List Delivery} {notices : List Notice}
      (h : s.monitor.start s.now = (m, ds, notices)) (hn : .monitorRunning ∈ notices) :
      Step s ⟨s.now, .refused⟩ (s.issue m ds)
  | stop (s : Timed) : Step s ⟨s.now, .stopped⟩ (s.set s.monitor.stop)
  | tick (s : Timed) {d : Tick} {m : Monitor} {ds : List Delivery}
      (hd : s.monitor.ticker.bind Ticker.deadline? = some d) (hdue : d ≤ s.now)
      (h : s.monitor.cycleDue s.now = (m, ds)) :
      Step s ⟨s.now, .ticked (armed s.monitor.pingTimeout ds)⟩ (s.issue m ds)
  | register (s : Timed) (name context : String) (thresholds : Thresholds) :
      Step s ⟨s.now, .registered name ⟨s.monitor.nextEpoch, context, .new thresholds⟩⟩
        (s.set (s.monitor.register name context thresholds).1)
  | unregister (s : Timed) (name : String) :
      Step s ⟨s.now, .unregistered name⟩ (s.set (s.monitor.unregister name).1)
  | ping (s : Timed) {name : String} {timeout : Span} {m : Monitor} {delivery : Option Delivery}
      {notices : List Notice} (h : s.monitor.ping name timeout s.now = (m, delivery, notices)) :
      Step s ⟨s.now, .pinged (armed timeout delivery.toList)⟩ (s.issue m delivery.toList)
  | pingAll (s : Timed) {m : Monitor} {ds : List Delivery} (h : s.monitor.cycle s.now = (m, ds)) :
      Step s ⟨s.now, .pinged (armed s.monitor.pingTimeout ds)⟩ (s.issue m ds)
  | acknowledge (s : Timed) {before after : List Ping} {ping : Ping}
      (h : s.flight.unanswered = before ++ ping :: after) :
      Step s ⟨s.now, .acknowledged ping⟩
        { s with flight := ⟨s.monitor.acknowledge ping s.now, before ++ after⟩ }
  | check (s : Timed) {before after : List Check} {c : Check}
      (h : s.monitor.checks = before ++ c :: after) (hdue : c.deadline ≤ s.now) :
      Step s ⟨s.now, .checked c⟩ (s.set ({ s.monitor with checks := before ++ after }.check c).1)
  | pass (s : Timed) {t : Tick} (ht : s.now ≤ t) (hd : ∀ d, s.monitor.deadline? = some d → t ≤ d) :
      Step s ⟨s.now, .passed⟩ { s with now := t }

variable {s s' : Timed} {e : Event} {es es' : List Event} {interval start : Nat}

namespace Event

/-- The monitor was to be started. -/
def isStart (e : Event) : Bool :=
  match e.act with
  | .started _ | .refused => true
  | _ => false

/-- The checks of the pings of a cycle. -/
def cycle? (e : Event) : Option (List Check) :=
  match e.act with
  | .started checks | .ticked checks => some checks
  | _ => none

/-- The checks of all pings that were issued. -/
def issued (e : Event) : List Check :=
  match e.act with
  | .started checks | .ticked checks | .pinged checks => checks
  | _ => []

/-- The check that was made. -/
def checked? (e : Event) : Option Check :=
  match e.act with
  | .checked c => some c
  | _ => none

/-- The ping that was acknowledged. -/
def answered? (e : Event) : Option Ping :=
  match e.act with
  | .acknowledged p => some p
  | _ => none

/-- The name was registered anew or removed. -/
def Replaces (e : Event) (name : String) : Prop :=
  (∃ r, e.act = .registered name r) ∨ e.act = .unregistered name

/-- Since when the monitor has to run, by what callers asked for. -/
def since (running : Option Tick) (e : Event) : Option Tick :=
  match e.act with
  | .started _ | .refused => running.or (some e.time)
  | .stopped => none
  | _ => running

/-- What becomes of the ticker. -/
def plan (interval : Span) (t? : Option Ticker) (e : Event) : Option Ticker :=
  match e.act with
  | .started _ => some (.new interval .dropped e.time)
  | .stopped => none
  | .ticked _ => t?.map fun t => { t with next := t.next + t.period }
  | _ => t?

/-- What is done to the table of registrations. -/
def accesses (e : Event) : List Health.Event :=
  match e.act with
  | .started checks => [.issued (checks.map (·.ping)), .rescheduled]
  | .ticked checks => [.rescheduled, .issued (checks.map (·.ping))]
  | .pinged checks => [.issued (checks.map (·.ping))]
  | .refused | .stopped | .passed => [.rescheduled]
  | .registered name r => [.registered name r]
  | .unregistered name => [.unregistered name]
  | .acknowledged p => [.acknowledged p e.time]
  | .checked c => [.timedOut c.ping]

end Event

/-- Since when the monitor has to run, if it has: the first start since the last stop. -/
def since? (es : List Event) : Option Tick := es.foldl Event.since none

/-- When cycles were run. -/
def cycles (es : List Event) : List Tick := (es.filter (·.cycle?.isSome)).map (·.time)

/-! ### Nothing is late -/

/-- Nothing that is to be done lies in the past. -/
structure OnTime (interval : Span) (s : Timed) : Prop where
  same : s.monitor.interval = interval
  ticker : ∀ t, s.monitor.ticker = some t → t.period = interval ∧ s.now ≤ t.next
  checks : ∀ c ∈ s.monitor.checks, s.now ≤ c.deadline

theorem OnTime.new (thresholds : Thresholds) (interval pingTimeout : Span) (now : Tick) :
    OnTime interval (.new thresholds interval pingTimeout now) :=
  ⟨rfl, nofun, nofun⟩

/-- A ticker that ticks does so at its own time. -/
theorem OnTime.ticks (hs : OnTime interval s) (hpos : 0 < interval) {d : Tick}
    (hd : s.monitor.ticker.bind Ticker.deadline? = some d) (hdue : d ≤ s.now) :
    ∃ t, s.monitor.ticker = some t ∧ t.period = interval ∧ t.next = s.now ∧
      s.monitor.cycleDue s.now =
        { s.monitor with ticker := some { t with next := t.next + t.period } }.cycle s.now := by
  obtain ⟨t, ht, hd⟩ := Option.bind_eq_some_iff.1 hd
  obtain ⟨hperiod, hnext⟩ := hs.ticker t ht
  have hpos' : 0 < t.period := hperiod ▸ hpos
  rw [Ticker.deadline?, if_neg (Nat.pos_iff_ne_zero.1 hpos')] at hd
  cases hd
  have hnow : t.next = s.now := Nat.le_antisymm hdue hnext
  refine ⟨t, ht, hperiod, hnow, ?_⟩
  rw [← hnow]
  exact Monitor.cycleDue_on_time ht hpos'

/-- A start finds a monitor that does not run, and runs a cycle at once. -/
theorem Step.started {checks : List Check} (h : Step s e s') (he : e.act = .started checks) :
    s.monitor.ticker = none ∧ checks = armed s.monitor.pingTimeout (s.monitor.cycle s.now).2 ∧
      s' = s.issue { (s.monitor.cycle s.now).1 with
        ticker := some (.new s.monitor.interval .dropped s.now) } (s.monitor.cycle s.now).2 := by
  cases h with
  | start h hn =>
      cases ht : s.monitor.ticker with
      | some t =>
          rw [Monitor.start_of_running ht] at h
          cases h
          exact absurd (List.mem_singleton_self _) hn
      | none =>
          rw [Monitor.start_of_stopped ht] at h
          cases h
          cases he
          exact ⟨rfl, rfl, rfl⟩
  | refuse | stop | tick | register | unregister | ping | pingAll | acknowledge | check | pass =>
      cases he

/-- It is refused while the monitor runs, and changes nothing then. -/
theorem Step.refused (h : Step s e s') (he : e.act = .refused) :
    s.monitor.ticker.isSome = true ∧ s' = s := by
  cases h with
  | refuse h hn =>
      cases ht : s.monitor.ticker with
      | none =>
          rw [Monitor.start_of_stopped ht] at h
          cases h
          exact absurd hn List.not_mem_nil
      | some t =>
          rw [Monitor.start_of_running ht] at h
          cases h
          refine ⟨rfl, ?_⟩
          rw [Timed.issue, List.map_nil, List.append_nil]
          rfl
  | start | stop | tick | register | unregister | ping | pingAll | acknowledge | check | pass =>
      cases he

theorem Step.stopped (h : Step s e s') (he : e.act = .stopped) : s' = s.set s.monitor.stop := by
  cases h with
  | stop => rfl
  | start | refuse | tick | register | unregister | ping | pingAll | acknowledge | check | pass =>
      cases he

/-- A tick is one cycle, and the ticker keeps to its timetable. -/
theorem Step.ticked {checks : List Check} (h : Step s e s') (he : e.act = .ticked checks)
    (hs : OnTime interval s) (hpos : 0 < interval) :
    ∃ t, s.monitor.ticker = some t ∧ t.period = interval ∧ t.next = s.now ∧
      checks = armed s.monitor.pingTimeout (s.monitor.cycle s.now).2 ∧
      s' = s.issue { (s.monitor.cycle s.now).1 with
        ticker := some { t with next := t.next + t.period } } (s.monitor.cycle s.now).2 := by
  cases h with
  | tick hd hdue h =>
      obtain ⟨t, ht, hperiod, hnext, hcycle⟩ := hs.ticks hpos hd hdue
      rw [hcycle] at h
      cases h
      cases he
      exact ⟨t, ht, hperiod, hnext, rfl, rfl⟩
  | start | refuse | stop | register | unregister | ping | pingAll | acknowledge | check | pass =>
      cases he

theorem Step.time (h : Step s e s') : e.time = s.now := by
  cases h <;> rfl

/-- What becomes of the clock. -/
theorem Step.clock (h : Step s e s') :
    s'.now = s.now ∨ s.now ≤ s'.now ∧ s'.monitor = s.monitor ∧
      ∀ d, s.monitor.deadline? = some d → s'.now ≤ d := by
  cases h with
  | pass ht hd => exact .inr ⟨ht, rfl, hd⟩
  | start | refuse | stop | tick | register | unregister | ping | pingAll | acknowledge | check =>
      exact .inl rfl

/-- What becomes of the ticker is told by the event, and the interval stays. -/
theorem Step.plan (h : Step s e s') (hs : OnTime interval s) (hpos : 0 < interval) :
    Host.timing s'.monitor = (e.plan interval s.monitor.ticker, s.monitor.interval) := by
  obtain ⟨time, act⟩ := e
  cases act with
  | started checks =>
      obtain ⟨-, -, rfl⟩ := h.started rfl
      obtain rfl : time = s.now := h.time
      rw [← hs.same]
      rfl
  | refused =>
      obtain ⟨-, rfl⟩ := h.refused rfl
      rfl
  | stopped =>
      obtain rfl := h.stopped rfl
      rfl
  | ticked checks =>
      obtain ⟨t, ht, -, -, -, rfl⟩ := h.ticked rfl hs hpos
      simp only [Event.plan, ht, Option.map_some]
      rfl
  | registered | unregistered | passed => cases h; rfl
  | pinged =>
      cases h with
      | @ping name timeout _ _ _ h =>
          have htiming := s.monitor.timing_ping name timeout s.now
          rw [h] at htiming
          exact htiming
      | pingAll h =>
          cases h
          rfl
  | acknowledged =>
      cases h with
      | acknowledge => exact s.monitor.timing_acknowledge _ s.now
  | checked =>
      cases h with
      | check => exact Host.timing_check _ _

/-- The checks that are made and those that are still to be made are those of before and of the
pings that are issued. -/
theorem Step.checks (h : Step s e s') (hs : OnTime interval s) (hpos : 0 < interval) :
    ∃ before after, s.monitor.checks = before ++ e.checked?.toList ++ after ∧
      s'.monitor.checks = before ++ after ++ e.issued := by
  have hsame (cs : List Check) : ∃ before after, cs = before ++ [] ++ after ∧
      cs = before ++ after ++ [] := ⟨cs, [], by simp, by simp⟩
  have hjoin (cs new : List Check) : ∃ before after, cs = before ++ [] ++ after ∧
      cs ++ new = before ++ after ++ new := ⟨cs, [], by simp, by simp⟩
  obtain ⟨time, act⟩ := e
  cases act with
  | started checks =>
      obtain ⟨-, rfl, rfl⟩ := h.started rfl
      exact hjoin _ _
  | refused =>
      obtain ⟨-, rfl⟩ := h.refused rfl
      exact hsame _
  | stopped =>
      obtain rfl := h.stopped rfl
      exact hsame _
  | ticked checks =>
      obtain ⟨t, -, -, -, rfl, rfl⟩ := h.ticked rfl hs hpos
      exact hjoin _ _
  | registered | unregistered | passed => cases h; exact hsame _
  | pinged =>
      cases h with
      | @ping name timeout _ _ _ h =>
          have hchecks := s.monitor.checks_ping name timeout s.now
          rw [h] at hchecks
          exact hchecks ▸ hjoin _ _
      | pingAll h =>
          cases h
          exact hjoin _ _
  | acknowledged ping =>
      cases h with
      | acknowledge =>
          have hchecks := s.monitor.checks_acknowledge ping s.now
          exact ⟨s.monitor.checks, [], by simp [Event.checked?],
            by simpa [Timed.monitor, Event.issued] using hchecks⟩
  | checked c =>
      cases h with
      | @check before after _ h =>
          refine ⟨before, after, by simp [Event.checked?, h], ?_⟩
          simp [Timed.set, Timed.monitor, Monitor.checks_check, Event.issued]

/-- A ping is issued now. -/
theorem Step.issued (h : Step s e s') (hs : OnTime interval s) (hpos : 0 < interval) {c : Check}
    (hc : c ∈ e.issued) : c.ping.issuedAt = s.now := by
  have hcycle : ∀ {timeout : Span} {c : Check},
      c ∈ armed timeout (s.monitor.cycle s.now).2 → c.ping.issuedAt = s.now := fun hc => by
    obtain ⟨d, hd, rfl⟩ := List.mem_map.1 hc
    obtain ⟨_, -, rfl⟩ := List.mem_map.1 hd
    rfl
  obtain ⟨time, act⟩ := e
  cases act with
  | started checks =>
      obtain ⟨-, rfl, -⟩ := h.started rfl
      exact hcycle hc
  | ticked checks =>
      obtain ⟨_, -, -, -, rfl, -⟩ := h.ticked rfl hs hpos
      exact hcycle hc
  | pinged =>
      cases h with
      | ping h =>
          obtain ⟨d, hd, rfl⟩ := List.mem_map.1 hc
          rw [Monitor.ping] at h
          split at h
          next =>
            cases h
            cases hd
          next =>
            cases h
            cases List.mem_singleton.1 hd
            rfl
      | pingAll h =>
          cases h
          exact hcycle hc
  | refused | stopped | registered | unregistered | acknowledged | checked | passed => cases hc

theorem Step.onTime (h : Step s e s') (hs : OnTime interval s) (hpos : 0 < interval) :
    OnTime interval s' := by
  have hplan := h.plan hs hpos
  have hticker : s'.monitor.ticker = e.plan interval s.monitor.ticker := congrArg Prod.fst hplan
  refine ⟨(congrArg Prod.snd hplan).trans hs.same, ?_, ?_⟩
  all_goals rcases h.clock with hnow | ⟨-, hm, hd⟩
  · rw [hnow, hticker]
    intro t ht
    obtain ⟨time, act⟩ := e
    obtain rfl : time = s.now := h.time
    cases act with
    | started =>
        cases ht
        exact ⟨rfl, Nat.le_add_right _ _⟩
    | stopped => cases ht
    | ticked =>
        obtain ⟨t₀, ht₀, rfl⟩ := Option.map_eq_some_iff.1 ht
        exact ⟨(hs.ticker t₀ ht₀).1, Nat.le_add_right_of_le (hs.ticker t₀ ht₀).2⟩
    | refused | registered | unregistered | pinged | acknowledged | checked | passed =>
        exact hs.ticker t ht
  · rw [hm]
    intro t ht
    have hperiod := (hs.ticker t ht).1
    exact ⟨hperiod, (Monitor.le_of_deadline? hd).1 t ht (hperiod ▸ hpos)⟩
  · obtain ⟨before, after, hbefore, hafter⟩ := h.checks hs hpos
    rw [hnow, hafter]
    intro c hc
    rcases List.mem_append.1 hc with hc | hc
    · refine hs.checks c (hbefore ▸ ?_)
      rcases List.mem_append.1 hc with hc | hc
      · exact List.mem_append_left _ (List.mem_append_left _ hc)
      · exact List.mem_append_right _ hc
    · rw [Check.deadline, h.issued hs hpos hc]
      exact Nat.le_add_right _ _
  · rw [hm]
    exact (Monitor.le_of_deadline? hd).2

theorem onTime_of_run (hrun : Run Step s es s') (hs : OnTime interval s) (hpos : 0 < interval) :
    OnTime interval s' :=
  hrun.preserves (fun h hs => h.onTime hs hpos) hs

/-! ### The cycles since a start -/

/-- The monitor was started at `start`, and has run `n` cycles since then. -/
structure Ticking (interval start n : Nat) (s : Timed) : Prop where
  ticker : s.monitor.ticker = some ⟨start + (n + 1) * interval, interval, .dropped⟩
  begun : start + n * interval ≤ s.now

variable {n : Nat}

/-- As long as there is no stop, a cycle is run when its time has come, and only then. -/
theorem Step.ticking (h : Step s e s') (hs : OnTime interval s) (hpos : 0 < interval)
    (ht : Ticking interval start n s) (he : e.act ≠ .stopped) :
    e.cycle? = none ∧ Ticking interval start n s' ∨
      e.cycle?.isSome = true ∧ e.time = start + (n + 1) * interval ∧
        Ticking interval start (n + 1) s' := by
  have hplan : s'.monitor.ticker = e.plan interval s.monitor.ticker :=
    congrArg Prod.fst (h.plan hs hpos)
  have hle : s.now ≤ s'.now := h.clock.elim (fun heq => Nat.le_of_eq heq.symm) And.left
  have htime := h.time
  obtain ⟨time, act⟩ := e
  cases act with
  | started =>
      obtain ⟨hnone, -⟩ := h.started rfl
      cases hnone.symm.trans ht.ticker
  | stopped => exact absurd rfl he
  | ticked =>
      obtain ⟨t, ht', -, hnext, -⟩ := h.ticked rfl hs hpos
      cases ht.ticker.symm.trans ht'
      refine .inr ⟨rfl, htime.trans hnext.symm, ?_, Nat.le_trans (Nat.le_of_eq hnext) hle⟩
      rw [hplan, Event.plan, ht.ticker, Option.map_some, Nat.succ_mul (n + 1), ← Nat.add_assoc]
  | refused | registered | unregistered | pinged | acknowledged | checked | passed =>
      exact .inl ⟨rfl, hplan.trans ht.ticker, Nat.le_trans ht.begun hle⟩

theorem cycles_concat (es : List Event) (e : Event) :
    cycles (es ++ [e]) = cycles es ++ if e.cycle?.isSome then [e.time] else [] := by
  rw [cycles, cycles, List.filter_append, List.map_append]
  cases hc : e.cycle?.isSome <;> simp [hc]

theorem Ticking.run (hrun : Run Step s es s') (hs : OnTime interval s) (hpos : 0 < interval)
    (ht : Ticking interval start 0 s) (hes : ∀ e ∈ es, e.act ≠ .stopped) :
    ∃ n, Ticking interval start n s' ∧
      cycles es = (List.range n).map fun k => start + (k + 1) * interval := by
  have hall : OnTime interval s' ∧ ((∀ e ∈ es, e.act ≠ .stopped) →
      ∃ n, Ticking interval start n s' ∧
        cycles es = (List.range n).map fun k => start + (k + 1) * interval) := by
    refine hrun.history (I := fun fs s' => OnTime interval s' ∧ ((∀ e ∈ fs, e.act ≠ .stopped) →
      ∃ n, Ticking interval start n s' ∧ cycles fs = (List.range n).map _)) ?_ ?_
    · exact ⟨hs, fun _ => ⟨0, ht, rfl⟩⟩
    · intro fs s e s₁ ⟨hs, ih⟩ h
      refine ⟨h.onTime hs hpos, fun hfs => ?_⟩
      obtain ⟨n, ht, hcycles⟩ := ih fun d hd => hfs d (List.mem_append_left _ hd)
      have he := hfs e (List.mem_append_right _ (List.mem_singleton_self _))
      rw [cycles_concat, hcycles]
      rcases h.ticking hs hpos ht he with ⟨hnone, ht'⟩ | ⟨hsome, htime, ht'⟩
      · exact ⟨n, ht', by simp [hnone]⟩
      · refine ⟨n + 1, ht', ?_⟩
        rw [if_pos hsome, htime, List.range_succ, List.map_append]
        rfl
  exact hall.2 hes

/-- As long as there is no start, no cycle is run. -/
theorem Step.idle (h : Step s e s') (hs : OnTime interval s) (hpos : 0 < interval)
    (ht : s.monitor.ticker = none) (he : e.isStart = false) :
    e.cycle?.isSome = false ∧ s'.monitor.ticker = none := by
  have hplan : s'.monitor.ticker = e.plan interval s.monitor.ticker :=
    congrArg Prod.fst (h.plan hs hpos)
  obtain ⟨time, act⟩ := e
  cases act with
  | started | refused => cases he
  | ticked =>
      obtain ⟨t, ht', -⟩ := h.ticked rfl hs hpos
      cases ht.symm.trans ht'
  | stopped => exact ⟨rfl, hplan⟩
  | registered | unregistered | pinged | acknowledged | checked | passed =>
      exact ⟨rfl, hplan.trans ht⟩

theorem cycles_of_idle (hrun : Run Step s es s') (hs : OnTime interval s) (hpos : 0 < interval)
    (ht : s.monitor.ticker = none) (hes : ∀ e ∈ es, e.isStart = false) : cycles es = [] := by
  induction hrun with
  | refl => rfl
  | more h _ ih =>
      rw [List.forall_mem_cons] at hes
      obtain ⟨hcycle, ht'⟩ := h.idle hs hpos ht hes.1
      rw [cycles, List.filter_cons_of_neg (by simp [hcycle])]
      exact ih (h.onTime hs hpos) ht' hes.2

/-- The monitor runs while it has to, by what callers asked for. -/
theorem Step.running {running : Option Tick} (h : Step s e s') (hs : OnTime interval s)
    (hpos : 0 < interval) (hr : s.monitor.ticker.isSome = running.isSome) :
    s'.monitor.ticker.isSome = (e.since running).isSome := by
  have hplan : s'.monitor.ticker = e.plan interval s.monitor.ticker :=
    congrArg Prod.fst (h.plan hs hpos)
  rw [hplan]
  obtain ⟨time, act⟩ := e
  cases act with
  | started => cases running <;> rfl
  | refused =>
      have hsome := (h.refused rfl).1
      rw [Event.plan, hsome, Event.since]
      cases running <;> rfl
  | stopped => rfl
  | ticked => exact Option.isSome_map.trans hr
  | registered | unregistered | pinged | acknowledged | checked | passed => exact hr

/-- A run of a new monitor: nothing is late, and it runs while it has to. -/
theorem of_run {thresholds : Thresholds} {pingTimeout : Span} {now : Tick}
    (hrun : Run Step (.new thresholds interval pingTimeout now) es s) (hpos : 0 < interval) :
    OnTime interval s ∧ s.monitor.ticker.isSome = (since? es).isSome := by
  refine hrun.history (I := fun es s =>
    OnTime interval s ∧ s.monitor.ticker.isSome = (since? es).isSome) ?_ ?_
  · exact ⟨.new .., rfl⟩
  · intro fs s e s₁ ⟨hs, hr⟩ h
    refine ⟨h.onTime hs hpos, ?_⟩
    rw [since?, List.foldl_append]
    exact h.running hs hpos hr

/-! ### What a cycle issues -/

/-- A cycle was run: each context that is registered, and no other, is issued its next ping, which
is to be checked when the monitor's time for it is over. -/
structure Cycle (s : Timed) (checks : List Check) (s' : Timed) : Prop where
  checks_eq : checks = s.monitor.probes.entries.map fun entry =>
    ⟨Monitor.nextPing entry.1 entry.2 s.now, s.monitor.pingTimeout⟩
  probes : s'.monitor.probes = s.monitor.probes.map (·.issue s.now)
  pending : s'.monitor.checks = s.monitor.checks ++ checks
  unanswered : s'.flight.unanswered = s.flight.unanswered ++ checks.map (·.ping)

theorem map_armed (timeout : Span) (ds : List Delivery) :
    (armed timeout ds).map (·.ping) = ds.map (·.ping) := List.map_map

theorem Cycle.of_cycle (s : Timed) (ticker : Option Ticker) :
    Cycle s (armed s.monitor.pingTimeout (s.monitor.cycle s.now).2)
      (s.issue { (s.monitor.cycle s.now).1 with ticker } (s.monitor.cycle s.now).2) where
  checks_eq := List.map_map
  probes := rfl
  pending := rfl
  unanswered := by rw [map_armed]; rfl

theorem Step.cycle {checks : List Check} (h : Step s e s') (hs : OnTime interval s)
    (hpos : 0 < interval) (he : e.cycle? = some checks) : Cycle s checks s' := by
  obtain ⟨time, act⟩ := e
  cases act with
  | started =>
      cases he
      obtain ⟨-, rfl, rfl⟩ := h.started rfl
      exact .of_cycle s _
  | ticked =>
      cases he
      obtain ⟨_, -, -, -, rfl, rfl⟩ := h.ticked rfl hs hpos
      exact .of_cycle s _
  | refused | stopped | registered | unregistered | pinged | acknowledged | checked | passed =>
      cases he

/-! ### What becomes of pings -/

/-- The steps are accesses to the table of registrations. -/
theorem Step.accesses (h : Step s e s') (hs : OnTime interval s) (hpos : 0 < interval) :
    Run Health.Step s.flight e.accesses s'.flight := by
  obtain ⟨time, act⟩ := e
  cases act with
  | started checks =>
      obtain ⟨-, rfl, rfl⟩ := h.started rfl
      simp only [Event.accesses, map_armed]
      exact .more (.cycle s.flight rfl) (.one (.reschedule _ (some (.new _ .dropped s.now))))
  | ticked checks =>
      obtain ⟨t, -, -, -, rfl, rfl⟩ := h.ticked rfl hs hpos
      simp only [Event.accesses, map_armed]
      exact .more (.reschedule s.flight (some { t with next := t.next + t.period }))
        (.one (.cycle _ rfl))
  | refused =>
      rw [(h.refused rfl).2]
      exact .one (.reschedule s.flight s.monitor.ticker)
  | stopped =>
      obtain rfl := h.stopped rfl
      exact .one (.reschedule s.flight none)
  | registered name r =>
      cases h with
      | register _ context thresholds => exact .one (.register s.flight name context thresholds)
  | unregistered name =>
      cases h with
      | unregister => exact .one (.unregister s.flight name)
  | pinged =>
      cases h with
      | ping h =>
          simp only [Event.accesses, map_armed]
          exact .one (.ping s.flight h)
      | pingAll h =>
          simp only [Event.accesses, map_armed]
          exact .one (.cycle s.flight h)
  | acknowledged =>
      cases h with
      | acknowledge h => exact .one (.acknowledge s.flight s.now h)
  | checked =>
      cases h with
      | check h => exact .one (.check s.flight h)
  | passed =>
      cases h with
      | pass => exact .one (.reschedule s.flight s.monitor.ticker)

theorem accesses_of_run (hrun : Run Step s es s') (hs : OnTime interval s) (hpos : 0 < interval) :
    Run Health.Step s.flight (es.flatMap Event.accesses) s'.flight := by
  induction hrun with
  | refl => exact .refl _
  | more h _ ih => exact (h.accesses hs hpos).trans (ih (h.onTime hs hpos))

theorem Event.replaces_of_access {name : String} {a : Health.Event} (ha : a ∈ e.accesses)
    (hr : a.Replaces name) : e.Replaces name := by
  obtain ⟨time, act⟩ := e
  cases act with
  | registered key r =>
      obtain rfl := List.mem_singleton.1 ha
      rcases hr with ⟨r', heq⟩ | heq
      · cases heq
        exact .inl ⟨r, rfl⟩
      · cases heq
  | unregistered key =>
      obtain rfl := List.mem_singleton.1 ha
      rcases hr with ⟨r', heq⟩ | heq
      · cases heq
      · cases heq
        exact .inr rfl
  | started | refused | stopped | ticked | pinged | acknowledged | checked | passed =>
      simp only [accesses, List.mem_cons, List.not_mem_nil, or_false] at ha
      rcases ha with rfl | rfl <;> simp [Health.Event.Replaces] at hr

/-- What becomes of the pings in flight, and of those that are issued, whatever starts and stops
there are: each is checked at its own time and once, or its time is still to come; each is
acknowledged once, or still in flight; and its probe has recorded just that. -/
structure Settled (s : Timed) (es : List Event) (s' : Timed) : Prop where
  checked : (es.filterMap Event.checked? ++ s'.monitor.checks).Perm
    (s.monitor.checks ++ es.flatMap Event.issued)
  on_time : ∀ e ∈ es, ∀ c, e.act = .checked c → e.time = c.deadline
  pending : ∀ c ∈ s'.monitor.checks, s'.now ≤ c.deadline
  answered : (es.filterMap Event.answered? ++ s'.flight.unanswered).Perm
    (s.flight.unanswered ++ (es.flatMap Event.issued).map (·.ping))
  recorded : ∀ name r, s.monitor.probes.get? name = some r → (∀ e ∈ es, ¬ e.Replaces name) →
    s'.monitor.probes.get? name = some { r with
      probe := (history name r.epoch (es.flatMap Event.accesses)).foldl Probe.after r.probe }

/-- What leaves and what joins a list, in two parts. -/
theorem perm_append {β : Type} {gone gone' xs ys zs new new' : List β}
    (h : (gone ++ ys).Perm (xs ++ new)) (h' : (gone' ++ zs).Perm (ys ++ new')) :
    (gone ++ gone' ++ zs).Perm (xs ++ (new ++ new')) := by
  have hlast := (h'.append_left gone).trans ((List.append_assoc ..).symm ▸ h.append_right new')
  rwa [← List.append_assoc, List.append_assoc xs] at hlast

theorem perm_of_moves {β : Type} {xs xs' new : List β} {gone : List β}
    (h : ∃ before after, xs = before ++ gone ++ after ∧ xs' = before ++ after ++ new) :
    (gone ++ xs').Perm (xs ++ new) := by
  obtain ⟨before, after, rfl, rfl⟩ := h
  rw [← List.append_assoc, ← List.append_assoc]
  exact (List.perm_append_comm.append_right after).append_right new

theorem Step.unanswered (h : Step s e s') (hs : OnTime interval s) (hpos : 0 < interval) :
    Moves s.flight.unanswered e.answered? (e.issued.map (·.ping)) s'.flight.unanswered := by
  obtain ⟨time, act⟩ := e
  cases act with
  | started checks =>
      obtain ⟨-, rfl, rfl⟩ := h.started rfl
      simp only [Event.issued, map_armed]
      exact .join _ _
  | ticked checks =>
      obtain ⟨_, -, -, -, rfl, rfl⟩ := h.ticked rfl hs hpos
      simp only [Event.issued, map_armed]
      exact .join _ _
  | refused =>
      obtain ⟨-, rfl⟩ := h.refused rfl
      exact .refl _
  | pinged =>
      cases h <;> simp only [Event.issued, map_armed] <;> exact .join _ _
  | acknowledged ping =>
      cases h with
      | @acknowledge before after _ h =>
          exact ⟨before, after, by simpa [Event.answered?] using h, (List.append_nil _).symm⟩
  | stopped | registered | unregistered | checked | passed => cases h; exact .refl _

/-- A check is made at its own time. -/
theorem Step.checked {c : Check} (h : Step s e s') (he : e.act = .checked c)
    (hs : OnTime interval s) : e.time = c.deadline := by
  cases h with
  | @check before after c h hdue =>
      cases he
      exact Nat.le_antisymm (hs.checks _ (h ▸ List.mem_append_right _ List.mem_cons_self)) hdue
  | start | refuse | stop | tick | register | unregister | ping | pingAll | acknowledge | pass =>
      cases he

theorem filterMap_cons_toList {β γ : Type} (f : β → Option γ) (b : β) (bs : List β) :
    (b :: bs).filterMap f = (f b).toList ++ bs.filterMap f := by
  rw [List.filterMap_cons]
  cases f b <;> rfl

theorem settled (hrun : Run Step s es s') (hs : OnTime interval s) (hpos : 0 < interval) :
    Settled s es s' where
  checked := by
    induction hrun with
    | refl => simp
    | more h _ ih =>
        rw [filterMap_cons_toList, List.flatMap_cons]
        exact perm_append (perm_of_moves (h.checks hs hpos)) (ih (h.onTime hs hpos))
  on_time := by
    induction hrun with
    | refl => exact nofun
    | more h _ ih =>
        exact List.forall_mem_cons.2 ⟨fun c he => h.checked he hs, ih (h.onTime hs hpos)⟩
  pending := (onTime_of_run hrun hs hpos).checks
  answered := by
    induction hrun with
    | refl => simp
    | more h _ ih =>
        rw [filterMap_cons_toList, List.flatMap_cons, List.map_append]
        exact perm_append (perm_of_moves (h.unanswered hs hpos)) (ih (h.onTime hs hpos))
  recorded := by
    intro name r hr hes
    refine get?_of_run (accesses_of_run hrun hs hpos) hr fun a ha hreplaces => ?_
    obtain ⟨e, he, ha⟩ := List.mem_flatMap.1 ha
    exact hes e he (Event.replaces_of_access ha hreplaces)

/-! ### All that is due -/

/-- A check does not depend on those that are still to be made. -/
theorem check_checks (m : Monitor) (c : Check) (xs ys : List Check) :
    { ({ m with checks := xs }.check c).1 with checks := ys } =
      ({ m with checks := ys }.check c).1 := by
  have hsame : { m with checks := xs }.registration? c.ping =
      { m with checks := ys }.registration? c.ping := rfl
  rw [Monitor.check, Monitor.check, hsame]
  split
  next => rfl
  next => split <;> rfl

/-- A monitor that makes the checks that are due, in some order, takes a step for each. -/
theorem run_checkAll {due : List Check} (hdue : ∀ c ∈ due, c.deadline ≤ s.now)
    (hperm : due.Perm (s.monitor.checks.filter fun c => decide (c.deadline ≤ s.now))) :
    ∃ es, Run Step s es (s.set ({ s.monitor with
      checks := s.monitor.checks.filter fun c => decide (s.now < c.deadline)
    }.checkAll due).1) := by
  induction due generalizing s with
  | nil =>
      have hnone := List.filter_eq_nil_iff.1 (List.nil_perm.1 hperm)
      have hall : s.monitor.checks.filter (fun c => decide (s.now < c.deadline)) =
          s.monitor.checks := List.filter_eq_self.2 fun c hc => by
        simpa using hnone c hc
      rw [hall]
      exact ⟨[], .refl s⟩
  | cons c due ih =>
      have hmem : c ∈ s.monitor.checks :=
        (List.mem_filter.1 (hperm.subset List.mem_cons_self)).1
      obtain ⟨before, after, hchecks⟩ := List.append_of_mem hmem
      obtain ⟨hc, hdue⟩ := List.forall_mem_cons.1 hdue
      let s₁ := s.set ({ s.monitor with checks := before ++ after }.check c).1
      have hstep : Step s ⟨s.now, .checked c⟩ s₁ := .check s hchecks hc
      have hrest : s₁.monitor.checks = before ++ after := Monitor.checks_check _ c
      have hperm' : due.Perm (s₁.monitor.checks.filter fun c => decide (c.deadline ≤ s₁.now)) := by
        rw [hrest, List.filter_append]
        rw [hchecks, List.filter_append, List.filter_cons_of_pos (by simpa using hc)] at hperm
        exact (List.perm_cons c).1 (hperm.trans List.perm_middle)
      have hlater : s.monitor.checks.filter (fun c => decide (s.now < c.deadline)) =
          s₁.monitor.checks.filter fun c => decide (s.now < c.deadline) := by
        rw [hrest, hchecks, List.filter_append, List.filter_append,
          List.filter_cons_of_neg (by simpa using hc)]
      obtain ⟨es, hrun⟩ := ih (s := s₁) hdue hperm'
      rw [hlater]
      refine ⟨⟨s.now, .checked c⟩ :: es, .more hstep ?_⟩
      have hsame := check_checks s.monitor c (before ++ after)
        (s₁.monitor.checks.filter fun c => decide (s.now < c.deadline))
      have hall (m : Monitor) : (m.checkAll (c :: due)).1 = ((m.check c).1.checkAll due).1 := rfl
      rw [hall, ← hsame]
      exact hrun

theorem run_checkDue (s : Timed) : ∃ es, Run Step s es (s.set (s.monitor.checkDue s.now).1) :=
  run_checkAll (fun c hc => by
    have hmem := List.mem_mergeSort.1 hc
    simpa using (List.mem_filter.1 hmem).2) (List.mergeSort_perm _ _)

/-- A monitor that looks at its ticker takes a step, or none. -/
theorem run_cycleDue (s : Timed) :
    ∃ es, Run Step s es (s.issue (s.monitor.cycleDue s.now).1 (s.monitor.cycleDue s.now).2) := by
  have hnone : s.issue s.monitor [] = s := by
    rw [Timed.issue, List.map_nil, List.append_nil]
    rfl
  cases ht : s.monitor.ticker with
  | none =>
      have hsame : s.monitor.cycleDue s.now = (s.monitor, []) := by rw [Monitor.cycleDue, ht]
      rw [hsame, hnone]
      exact ⟨[], .refl s⟩
  | some t =>
      rcases t.early_or_late s.now with hearly | ⟨hpos, hlate⟩
      · have hsame : s.monitor.cycleDue s.now = (s.monitor, []) := by
          rw [Monitor.cycleDue, ht]
          simp only [Ticker.fire_early hearly, Monitor.cycles, ← ht]
        rw [hsame, hnone]
        exact ⟨[], .refl s⟩
      · refine ⟨_, .one (.tick s (d := t.next) ?_ hlate rfl)⟩
        rw [ht, Option.bind_some, Ticker.deadline?, if_neg (Nat.pos_iff_ne_zero.1 hpos)]

/-! ### The cadence -/

/-- **The cadence of the cycles.**  Take any run of a new monitor with an interval.  Wherever it has
come:
* since a start that found it not running, and as long as there is no stop, cycles were run at the
  time of that start and one, two, and so on, intervals later, and no others: all those whose time
  has come, but for what is due right now;
* while it does not have to run, no cycle is run;
* a start is refused exactly while it has to run, and changes nothing then, and neither does a stop
  while it does not have to;
* a cycle issues one new ping to each context that is registered;
* whatever starts and stops come then, pings are acknowledged and checked, each at its own time. -/
theorem cadence {thresholds : Thresholds} {pingTimeout : Span} {now : Tick} (hpos : 0 < interval)
    (hrun : Run Step (.new thresholds interval pingTimeout now) es s) :
    (∀ before e after, es = before ++ e :: after → since? before = none → e.isStart = true →
      (∀ d ∈ after, d.act ≠ .stopped) →
        ∃ n, cycles (e :: after) = (List.range (n + 1)).map (fun k => e.time + k * interval) ∧
          e.time + n * interval ≤ s.now ∧ s.now ≤ e.time + (n + 1) * interval) ∧
    (∀ before after, es = before ++ after → since? before = none →
      (∀ d ∈ after, d.isStart = false) → cycles after = []) ∧
    (∀ e s', Step s e s' →
      (e.isStart = true → (e.act = .refused ↔ (since? es).isSome = true)) ∧
      (e.act = .refused → s' = s) ∧ (e.act = .stopped → since? es = none → s' = s) ∧
      ∀ checks, e.cycle? = some checks → Cycle s checks s') ∧
    ∀ es' s', Run Step s es' s' → Settled s es' s' := by
  obtain ⟨hs, hrunning⟩ := of_run hrun hpos
  refine ⟨fun before e after hes hbefore he hafter => ?_, fun before after hes hbefore hafter => ?_,
    fun e s' h => ⟨fun he => ?_, fun he => (h.refused he).2, fun he hnone => ?_, fun checks hc =>
      h.cycle hs hpos hc⟩, fun es' s' h => settled h hs hpos⟩
  · subst hes
    obtain ⟨s₁, s₂, hrun₁, h, hrun₂⟩ := hrun.split_at
    obtain ⟨hs₁, hrunning₁⟩ := of_run hrun₁ hpos
    rw [hbefore] at hrunning₁
    obtain ⟨time, act⟩ := e
    obtain rfl : time = s₁.now := h.time
    cases act with
    | refused =>
        rw [(h.refused rfl).1] at hrunning₁
        cases hrunning₁
    | started checks =>
        have hstart : Ticking interval s₁.now 0 s₂ := by
          obtain ⟨-, -, rfl⟩ := h.started rfl
          refine ⟨?_, by rw [Nat.zero_mul]; exact Nat.le_refl _⟩
          rw [Nat.zero_add, Nat.one_mul, ← hs₁.same]
          rfl
        obtain ⟨n, hticking, hcycles⟩ := hstart.run hrun₂ (h.onTime hs₁ hpos) hpos hafter
        refine ⟨n, ?_, hticking.begun, (hs.ticker _ hticking.ticker).2⟩
        rw [List.range_succ_eq_map, List.map_cons, List.map_map, Nat.zero_mul]
        exact congrArg (s₁.now :: ·) hcycles
    | stopped | ticked | registered | unregistered | pinged | acknowledged | checked | passed =>
        cases he
  · subst hes
    obtain ⟨s₁, hrun₁, hrun₂⟩ := hrun.split
    obtain ⟨hs₁, hrunning₁⟩ := of_run hrun₁ hpos
    rw [hbefore] at hrunning₁
    have hidle : s₁.monitor.ticker = none :=
      Option.not_isSome_iff_eq_none.1 (by simp [hrunning₁])
    exact cycles_of_idle hrun₂ hs₁ hpos hidle hafter
  · rw [← hrunning]
    obtain ⟨time, act⟩ := e
    cases act with
    | refused => exact ⟨fun _ => (h.refused rfl).1, fun _ => rfl⟩
    | started =>
        rw [(h.started rfl).1]
        exact ⟨nofun, nofun⟩
    | stopped | ticked | registered | unregistered | pinged | acknowledged | checked | passed =>
        cases he
  · rw [hnone] at hrunning
    have hticker : s.monitor.ticker = none := Option.not_isSome_iff_eq_none.1 (by simp [hrunning])
    rw [h.stopped he, Monitor.stop, ← hticker]
    rfl

/-- A monitor with an interval of 4 that leaves a ping 6.  It is started at 0 and stopped at 5; the
ping of its first cycle is checked at 6 all the same. -/
theorem cadence_stopped :
    let bounds : Thresholds := ⟨1, 3, 3⟩
    let c₀ : Check := ⟨⟨"ui", 0, 0, 0⟩, 6⟩
    let c₁ : Check := ⟨⟨"ui", 0, 1, 4⟩, 6⟩
    let since : List Event :=
      [⟨0, .started [c₀]⟩, ⟨0, .passed⟩, ⟨4, .ticked [c₁]⟩, ⟨4, .passed⟩]
    let afterwards : List Event := [⟨5, .stopped⟩, ⟨5, .passed⟩, ⟨6, .checked c₀⟩]
    ∃ s s', Run Step (.new bounds 4 6 0)
        (⟨0, .registered "ui" ⟨0, "main", .new bounds⟩⟩ :: since) s ∧
      (∃ n, cycles since = (List.range (n + 1)).map (fun k => 0 + k * 4) ∧ 0 + n * 4 ≤ s.now ∧
        s.now ≤ 0 + (n + 1) * 4) ∧
      Run Step s afterwards s' ∧ Settled s afterwards s' := by
  intro bounds c₀ c₁ since afterwards
  let s₀ : Timed := .new bounds 4 6 0
  let s₁ : Timed := s₀.set (s₀.monitor.register "ui" "main" bounds).1
  let s₂ : Timed := s₁.issue (s₁.monitor.start 0).1 (s₁.monitor.start 0).2.1
  let s₃ : Timed := { s₂ with now := 4 }
  let m₄ : Monitor := { s₃.monitor with ticker := some ⟨8, 4, .dropped⟩ }
  let s₄ : Timed := s₃.issue (m₄.cycle 4).1 (m₄.cycle 4).2
  let s₅ : Timed := { s₄ with now := 5 }
  let s₆ : Timed := s₅.set s₅.monitor.stop
  let s₇ : Timed := { s₆ with now := 6 }
  let s₈ : Timed := s₇.set ({ s₇.monitor with checks := [c₁] }.check c₀).1
  have h₁ : Step s₀ ⟨0, .registered "ui" ⟨0, "main", .new bounds⟩⟩ s₁ :=
    .register s₀ "ui" "main" bounds
  have h₂ : Step s₁ ⟨0, .started [c₀]⟩ s₂ := .start s₁ rfl List.not_mem_nil
  have h₃ : Step s₂ ⟨0, .passed⟩ s₃ := .pass s₂ (by decide) (by rintro _ ⟨⟩; decide)
  have hdue : s₃.monitor.cycleDue 4 = m₄.cycle 4 :=
    Monitor.cycleDue_on_time (t := ⟨4, 4, .dropped⟩) rfl (by decide)
  have h₄ : Step s₃ ⟨4, .ticked [c₁]⟩ s₄ := .tick s₃ (d := 4) rfl (by decide) hdue
  have h₅ : Step s₄ ⟨4, .passed⟩ s₅ := .pass s₄ (by decide) (by rintro _ ⟨⟩; decide)
  have h₆ : Step s₅ ⟨5, .stopped⟩ s₆ := .stop s₅
  have h₇ : Step s₆ ⟨5, .passed⟩ s₇ := .pass s₆ (by decide) (by rintro _ ⟨⟩; decide)
  have h₈ : Step s₇ ⟨6, .checked c₀⟩ s₈ := @Step.check s₇ [] [c₁] c₀ rfl (by decide)
  have hrun : Run Step s₀ (_ :: since) s₅ := .more h₁ (.more h₂ (.more h₃ (.more h₄ (.one h₅))))
  have hthen : Run Step s₅ afterwards s₈ := .more h₆ (.more h₇ (.one h₈))
  have hcadence := cadence (by decide) hrun
  have hcycles := hcadence.1 [_] ⟨0, .started [c₀]⟩ since.tail rfl rfl rfl (by simp [since])
  exact ⟨s₅, s₈, hrun, hcycles, hthen, hcadence.2.2.2 afterwards s₈ hthen⟩

end Cadence
end Health
end Vigil
