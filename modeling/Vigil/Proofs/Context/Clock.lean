import Mathlib.Algebra.GroupWithZero.Nat
import Vigil.Config.Load
import Vigil.Proofs.Context.Services
import Vigil.Proofs.Health.Flight
import Vigil.Proofs.Reporter.Lifecycle

/-!
# Context — the end of the clock

The clock tells times up to `2 ^ 63` seconds, and whoever adds a length of time beyond that panics.
The times of the pings are numbers of 64 bits in milliseconds (`Config.parse_ok`), so that their
sums are far from there for the first `2 ^ 40` seconds (`Tick.after?_ofMillis`).  The sweeps can be
as far apart in seconds, and a configuration is not asked how far.

* `Monitor.withinClock`: the clock can tell all deadlines that a monitor sets.
* `Sound.start_panicked_iff`: which starts panic.
* `guarded_start_panicked`: a start that panics has written its marker, and leaves it.

**Main theorem** (`start_within_clock`): only the first sweep can lie past the end of the clock.
`start_past_clock` is a start, with a configuration that is accepted, where it does.
-/

namespace Vigil

/-! ### The settings of a configuration that was read -/

namespace Config
variable {config : Config}

theorem natural?_lt {bound n : Nat} {v : Toml} (h : natural? bound v = some n) : n < bound := by
  rw [natural?.eq_def] at h
  split at h
  next =>
    obtain ⟨hlt, heq⟩ := Option.ite_none_right_eq_some.1 h
    cases heq
    exact hlt
  next => cases h

/-- A setting is its default, or was read. -/
theorem setting_cases {β : Type} {read : Toml → Option β} {name : String} {position : Nat}
    {default a : β} {s : Toml} (h : setting read name position default s = some a) :
    a = default ∨ ∃ v, read v = some a := by
  rw [setting] at h
  split at h
  next => exact Or.inl (Option.some.inj h).symm
  next v _ => exact Or.inr ⟨v, h⟩

/-- A number of 64 bits, as all settings are that stand for a time. -/
theorem setting_lt {name : String} {position default n : Nat} {s : Toml}
    (h : setting (natural? UInt64.size) name position default s = some n)
    (hdefault : default < UInt64.size) : n < UInt64.size := by
  rcases setting_cases h with rfl | ⟨v, hv⟩
  · exact hdefault
  · exact natural?_lt hv

/-- The times of the pings are numbers of 64 bits. -/
theorem health?_lt {s : Toml} {settings : HealthSettings} (h : health? s = some settings) :
    settings.intervalMillis < UInt64.size ∧ settings.pingTimeoutMillis < UInt64.size := by
  obtain ⟨-, h⟩ := Option.ite_none_right_eq_some.1 h
  simp only [Option.bind_eq_bind, Option.bind_eq_some_iff, Option.some.injEq] at h
  obtain ⟨_, hinterval, _, htimeout, _, -, _, -, _, -, rfl⟩ := h
  exact ⟨setting_lt hinterval (by decide), setting_lt htimeout (by decide)⟩

/-- A configuration that is read can be used, and the times of its pings are numbers of 64 bits. -/
theorem parse_ok {raw : List Char} (h : parse raw = .ok config) :
    config.problem? = none ∧ config.health.intervalMillis < UInt64.size ∧
      config.health.pingTimeoutMillis < UInt64.size := by
  rw [parse] at h
  split at h
  next => cases h
  next c hc =>
    rw [validate] at h
    split at h
    next hproblem =>
      cases h
      obtain ⟨fields, -, hfields⟩ := Option.bind_eq_some_iff.1 hc
      simp only [ofToml?, Option.bind_eq_bind, Option.bind_eq_some_iff, Option.some.injEq]
        at hfields
      obtain ⟨_, -, _, -, _, -, _, -, health, hhealth, _, -, rfl⟩ := hfields
      have hdefault : ({} : HealthSettings).intervalMillis < UInt64.size ∧
          ({} : HealthSettings).pingTimeoutMillis < UInt64.size := by decide
      refine ⟨hproblem, ?_⟩
      rcases setting_cases hhealth with rfl | ⟨v, hv⟩
      · exact hdefault
      · exact health?_lt hv
    next => cases h

/-- Whether a configuration is read can be evaluated. -/
theorem parse_of_toOption {raw : List Char} (h : (parse raw).toOption = some config) :
    parse raw = .ok config := by
  cases hparse : parse raw with
  | error e =>
      rw [hparse] at h
      cases h
  | ok c =>
      rw [hparse] at h
      rw [Option.some.inj h]

end Config

/-! ### Sums of times -/

/-- Within `2 ^ 40` seconds the clock can tell when a number of milliseconds will be over, if that
has 64 bits. -/
theorem Tick.after?_ofMillis {t n : Nat} (ht : t ≤ Span.ofSeconds (2 ^ 40))
    (hn : n < UInt64.size) : Tick.after? t (Span.ofMillis n) = some (t + Span.ofMillis n) := by
  have huptime : t ≤ 2 ^ 40 * 1000000000 := ht
  have hmillis : n < 2 ^ 64 := hn
  have hsum : t + n * 1000000 < 2 ^ 63 * 1000000000 := by omega
  exact if_pos hsum

theorem Tick.after?_eq_none_iff {t : Tick} {d : Span} :
    Tick.after? t d = none ↔ 2 ^ 63 * 1000000000 ≤ t + d := by
  rw [after?]
  split
  next h => exact ⟨nofun, fun hle => absurd h (Nat.not_lt.2 hle)⟩
  next h => exact ⟨fun _ => Nat.not_lt.1 h, fun _ => rfl⟩

/-! ### The deadlines of a monitor -/

namespace Health

/-- No access changes the times of a monitor. -/
theorem Step.settings {f f' : Flight} {e : Event} (hst : Step f e f') :
    f'.monitor.interval = f.monitor.interval ∧ f'.monitor.pingTimeout = f.monitor.pingTimeout := by
  cases hst with
  | register | unregister | reschedule => exact ⟨rfl, rfl⟩
  | ping h =>
      rw [Monitor.ping] at h
      split at h <;> cases h <;> exact ⟨rfl, rfl⟩
  | cycle h =>
      cases h
      exact ⟨rfl, rfl⟩
  | acknowledge =>
      simp only [Monitor.acknowledge]
      split <;> exact ⟨rfl, rfl⟩
  | check =>
      simp only [Monitor.check]
      split
      next => exact ⟨rfl, rfl⟩
      next => split <;> exact ⟨rfl, rfl⟩

/-- So no run does. -/
theorem settings_of_run {f f' : Flight} {es : List Event} (hrun : Run Step f es f') :
    f'.monitor.interval = f.monitor.interval ∧ f'.monitor.pingTimeout = f.monitor.pingTimeout := by
  induction hrun with
  | refl => exact ⟨rfl, rfl⟩
  | more hst _ ih =>
      obtain ⟨hinterval, htimeout⟩ := hst.settings
      exact ⟨ih.1.trans hinterval, ih.2.trans htimeout⟩

/-- The clock can tell every deadline that a monitor sets at `now`. -/
structure Monitor.WithinClock (m : Monitor) (now : Tick) : Prop where
  /-- A start runs a cycle and plans the next one. -/
  start : m.ticker = none → ∃ t, (m.start now).1.ticker = some t ∧ 0 < t.period ∧
    Tick.after? now m.interval = some t.next ∧ (m.start now).1.checks = (m.cycle now).1.checks
  /-- A cycle sets a deadline for each of its pings. -/
  cycle : ∀ c ∈ (m.cycle now).1.checks, c ∈ m.checks ∨
    c.ping.issuedAt = now ∧ Tick.after? c.ping.issuedAt c.timeout = some c.deadline

theorem Monitor.withinClock {m : Monitor} {now : Tick} (hpos : 0 < m.interval)
    (hinterval : Tick.after? now m.interval = some (now + m.interval))
    (htimeout : Tick.after? now m.pingTimeout = some (now + m.pingTimeout)) :
    m.WithinClock now where
  start hticker := by
    rw [Monitor.start, isRunning, hticker]
    exact ⟨_, rfl, hpos, hinterval, rfl⟩
  cycle c hc := by
    rcases List.mem_append.1 hc with hc | hc
    · exact Or.inl hc
    · obtain ⟨_, hd, rfl⟩ := List.mem_map.1 hc
      obtain ⟨_, -, rfl⟩ := List.mem_map.1 hd
      exact Or.inr ⟨rfl, htimeout⟩

end Health

/-! ### Starts that panic -/

namespace Host
variable {ids : Nat → String} {α : Type} {h : Host ids α}

theorem platform_deliver (h : Host ids α) (id : Nat) (d : Health.Delivery) :
    (h.deliver id d).platform = h.platform := by
  rw [deliver]
  split
  case h_3 =>
    rw [acknowledge]
    split <;> rfl
  all_goals rfl

theorem platform_deliverAll (h : Host ids α) (id : Nat) (ds : List Health.Delivery) :
    (h.deliverAll id ds).platform = h.platform := by
  rw [deliverAll]
  induction ds generalizing h with
  | nil => rfl
  | cons d ds ih => exact (ih _).trans (platform_deliver h id d)

/-- A monitor that is started changes neither files nor captures. -/
theorem untouched_startMonitor (h : Host ids α) (id : Nat) :
    Interceptor.Untouched h.platform (h.startMonitor id).platform := by
  rw [startMonitor]
  split
  next => exact ⟨rfl, rfl⟩
  next m _ =>
    have hplatform := platform_deliverAll
      ((h.setMonitor id (m.start h.now).1).note (m.start h.now).2.2) id (m.start h.now).2.1
    dsimp only
    split
    next =>
      rw [show ∀ h : Host ids α, (h.soon [.startLoop]).platform = h.platform from fun _ => rfl,
        hplatform]
      exact ⟨rfl, rfl⟩
    next =>
      rw [hplatform]
      exact ⟨rfl, rfl⟩

end Host

namespace Context
variable {ids : Nat → String} {α : Type} {config : Config} {c : Context} {h : Host ids α}

/-- A start that panics leaves the marker of its session behind. -/
theorem guarded_start_panicked {wd : Place} {e : Option Bytes} (hn : c.reporter.capture = none)
    (hg : h.platform.Guarded wd c.reporter.markerPath e) (hf : c.reporter.FilesWork h.platform)
    (ha : Path.Apart wd c.reporter.markerPath c.reporter.logPath)
    (hpanic : (c.start h).2.2 = .panicked) :
    (c.start h).2.1.platform.Guarded wd c.reporter.markerPath
      (some (c.reporter.ownMarker h.platform).bytes) := by
  rw [Context.start] at hpanic ⊢
  split at hpanic
  next => cases hpanic
  next r p found hinstall =>
    have hinstalled := Reporter.guarded_install hn hinstall hg hf ha
    have hstarted := hinstalled.untouched
      (Host.untouched_startMonitor ({ h with platform := p } : Host ids α) c.monitor)
    dsimp only at hpanic ⊢
    split at hpanic
    next => cases hpanic
    next => exact hstarted.panic _ _

/-! ### The clock and starts -/

/-- The monitor of new diagnostics. -/
def flight (config : Config) : Health.Flight :=
  .new (thresholds config.health) config.health.interval config.health.pingTimeout

/-- **Starts and the end of the clock.**  Take a configuration that was read, and diagnostics after
any starts and shutdowns, at most `2 ^ 40` seconds after the machine was started.
* None of the periods is zero.
* The clock can tell when the next cycle is due, in a start and later.
* It can tell all deadlines that their monitor sets, whatever that has been through.
* A start panics exactly if the reporter was installed, no sweeper is known, and the first sweep is
  due at the end of the clock or past it. -/
theorem start_within_clock {raw : List Char} {interceptors : List Interceptor} {p : Platform}
    {es : List Event} (hconfig : Config.parse raw = .ok config)
    (hrun : Run Step (Context.new config interceptors (Host.new p)) es (c, h))
    (hnow : h.now ≤ Span.ofSeconds (2 ^ 40)) :
    (0 < config.tasks.sweepInterval ∧ 0 < config.health.interval ∧
      0 < config.health.pingTimeout) ∧
    (Tick.after? h.now config.health.interval = some (h.now + config.health.interval) ∧
      ∀ m t, (c.start h).2.1.monitor? (c.start h).1.monitor = some m → m.ticker = some t →
        t.period = config.health.interval ∧ t.next ≤ h.now + config.health.interval) ∧
    ((Context.new config interceptors (Host.new p : Host ids α)).2.monitors =
        [(flight config).monitor] ∧
      ∀ fs f, Run Health.Step (flight config) fs f →
        ∀ now ≤ Span.ofSeconds (2 ^ 40), f.monitor.WithinClock now) ∧
    ((c.start h).2.2 = .panicked ↔
      (∃ found, (c.reporter.install h.platform).2.2 = .ok found) ∧ c.sweeper = none ∧
        2 ^ 63 * 1000000000 ≤ h.now + config.tasks.sweepInterval) := by
  obtain ⟨hproblem, hinterval, htimeout⟩ := Config.parse_ok hconfig
  obtain ⟨hsweep, hping, htime⟩ := intervals_pos hproblem
  have hsound : Sound config c h :=
    (hrun.history (History.new config interceptors p) fun ih hst => ih.step hsweep hst).sound
  refine ⟨⟨hsweep, hping, htime⟩, ⟨Tick.after?_ofMillis hnow hinterval, fun m t hm ht => ?_⟩,
    ⟨rfl, fun fs f hfs now hle => ?_⟩, ?_⟩
  · obtain ⟨hstarted, hstart, -⟩ := hsound.start hsweep
    obtain ⟨m', hm', htimely⟩ := hstarted.monitor
    cases hm.symm.trans hm'
    rw [← hstart]
    exact ⟨htimely.period t ht, htimely.next_le t ht⟩
  · obtain ⟨hsame, hsame'⟩ := Health.settings_of_run hfs
    refine Health.Monitor.withinClock ?_ ?_ ?_
    · rw [hsame]
      exact hping
    · rw [hsame]
      exact Tick.after?_ofMillis hle hinterval
    · rw [hsame']
      exact Tick.after?_ofMillis hle htimeout
  · rw [← Tick.after?_eq_none_iff]
    exact hsound.start_panicked_iff

/-- A configuration without interceptors. -/
def bareText : List Char :=
  "data_dir = \"data\"\n[crash]\ncapture_signals = false\ncapture_panics = false\n".toList

theorem start_within_clock_bare :
    let p : Platform := .new (.new []) (Span.ofSeconds 1000) ⟨0, 0, by decide⟩ 7 "" ""
    let w := Context.new bare (interceptors bare) (Host.new p : Host Host.numbered Unit)
    Config.parse bareText = .ok bare ∧ w.2.now ≤ Span.ofSeconds (2 ^ 40) ∧
      (flight bare).monitor.WithinClock w.2.now ∧ (w.1.start w.2).2.2 ≠ .panicked := by
  intro p w
  have hconfig : Config.parse bareText = .ok bare := Config.parse_of_toOption (by decide +kernel)
  have hnow : w.2.now ≤ Span.ofSeconds (2 ^ 40) := by decide
  obtain ⟨-, -, ⟨-, hmonitor⟩, hpanicked⟩ :=
    start_within_clock (c := w.1) (h := w.2) hconfig (.refl w) hnow
  refine ⟨hconfig, hnow, hmonitor _ _ (.refl _) _ hnow, fun h => ?_⟩
  have hdue : ¬ 2 ^ 63 * 1000000000 ≤ w.2.now + bare.tasks.sweepInterval := by decide
  exact hdue (hpanicked.1 h).2.2

/-- A configuration whose sweeps are as far apart as a number of a document can say. -/
def pastText : List Char :=
  ("data_dir = \"/\"\n[tasks]\nsweep_interval_seconds = 9223372036854775807\n" ++
    "[crash]\ncapture_signals = false\ncapture_panics = false\n").toList

/-- The configuration that is read from it. -/
def past : Config where
  dataDir := "/"
  tasks := { sweepIntervalSeconds := 9223372036854775807 }
  crash := { captureSignals := false, capturePanics := false }

/-- Its marker is in the root directory. -/
theorem inRoot_session : Reporter.InRoot "/session.marker" "session.marker" where
  origin _ _ := by
    rw [Tree.origin, if_neg (by simp), if_neg (by decide), if_neg (by decide)]
    rfl
  names := by decide
  ne_dot := by decide
  ne_dots := by decide
  short := by decide
  slash := by decide

/-- A second after the machine was started, its first start panics and leaves a marker behind. -/
theorem start_past_clock :
    let p : Platform := .new (.new []) (Span.ofSeconds 1) ⟨0, 0, by decide⟩ 7 "" ""
    let w := Context.new past (interceptors past) (Host.new p : Host Host.numbered Unit)
    Config.parse pastText = .ok past ∧ w.2.now ≤ Span.ofSeconds (2 ^ 40) ∧
      (w.1.start w.2).2.2 = .panicked ∧
      ∃ b, (w.1.start w.2).2.1.platform.files.read past.markerPath = .ok b := by
  intro p w
  have hmarker : past.markerPath = "/session.marker" := by decide
  have hreporter : w.1.reporter = .new "/session.marker" "/crash.log" past.version 0 [] := by
    rw [← hmarker, ← show past.logPath = "/crash.log" by decide]
    rfl
  have hguarded : w.2.platform.Guarded [] "/session.marker" none :=
    ⟨rfl, Tree.wellFormed_new [], Tree.find?_new [] _, nofun⟩
  have hapart : Path.Apart [] "/session.marker" "/crash.log" :=
    .of_parent (by decide : Path.parent? "/crash.log" = some "/") (by decide) (by decide)
      (by decide)
  have hsound : Sound past w.1 w.2 := (History.new past (interceptors past) p).sound
  have hpanicked : (w.1.start w.2).2.2 = .panicked :=
    hsound.start_panicked_iff.2 ⟨(Reporter.bare_install rfl w.2.platform).2, rfl, by decide⟩
  rw [← show w.1.reporter.markerPath = "/session.marker" from hreporter ▸ rfl] at hguarded
  have hleft := guarded_start_panicked (hreporter ▸ rfl) hguarded
    (by rw [hreporter] at hguarded ⊢; exact Reporter.InRoot.filesWork inRoot_session hguarded)
    (by rw [hreporter]; exact hapart) hpanicked
  rw [hreporter] at hleft
  exact ⟨Config.parse_of_toOption (by decide +kernel), by decide, hpanicked, _,
    hmarker ▸ hleft.holds⟩

end Context
end Vigil
