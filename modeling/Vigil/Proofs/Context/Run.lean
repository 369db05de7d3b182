import Vigil.Context
import Vigil.Proofs.Host.Run
import Vigil.Proofs.Reporter.Observers

/-!
# Context — what starts and shutdowns do

The diagnostics of a program on their host: they are started and shut down, and in between whatever
goes on there takes its steps (`Step`).

* `Sound`: the registry and the monitor are those of the configuration; the only live sweeper of the
  registry is the one that the context knows, and that one is live unless there was a shutdown.
* `Running`, `Stopped`: what is true after a start that succeeded, and after a shutdown.
* `Sound.start`, `Sound.shutdown`, `Sound.host`: every step keeps `Sound`, and `Running` or
  `Stopped` is brought about by the calls and kept by all other steps.
-/

namespace Vigil

/-! ### The reporter -/

namespace Reporter
variable {r r' : Reporter} {p p' : Platform}

/-- Installing leaves the registries and the clock alone. -/
theorem tasks_install (r : Reporter) (p : Platform) :
    (r.install p).2.1.registries = p.registries ∧ (r.install p).2.1.now = p.now := by
  cases hc : r.capture with
  | some c =>
      rw [install_of_installed (by rw [hc]; rfl)]
      exact ⟨rfl, rfl⟩
  | none =>
      have hprepared := records_prepared r p
      have harm := Interceptor.rewires_armAll (r.prepared p) (r.nextCapture p) r.interceptors
      rw [install_eq hc]
      split
      next interceptors q n refusal heq =>
        rw [heq] at harm
        have hdisarm := Interceptor.rewires_disarmAll
          (q.note [.armFailed refusal.interceptor refusal.error]) (interceptors.take n)
        have hdelete := fun r : Reporter => Platform.Records.deleteMarker r .markerKeptAfterFailure
          (Interceptor.disarmAll (interceptors.take n)
            (q.note [.armFailed refusal.interceptor refusal.error])).2
        exact ⟨(hdelete _).registries.trans
            (hdisarm.registries.trans (harm.registries.trans hprepared.registries)),
          (hdelete _).now.trans (hdisarm.now.trans (harm.now.trans hprepared.now))⟩
      next heq =>
        rw [heq] at harm
        exact ⟨harm.registries.trans hprepared.registries, harm.now.trans hprepared.now⟩

/-- Uninstalling leaves them alone, too. -/
theorem tasks_uninstall (r : Reporter) (p : Platform) :
    (r.uninstall p).2.registries = p.registries ∧ (r.uninstall p).2.now = p.now := by
  rw [uninstall]
  split
  next =>
    have hdisarm := Interceptor.rewires_disarmAll p r.interceptors
    have hdelete := Platform.Records.deleteMarker (r.release p).1 .markerKept (r.release p).2
    exact ⟨hdelete.registries.trans hdisarm.registries, hdelete.now.trans hdisarm.now⟩
  next => exact ⟨rfl, rfl⟩

/-- A reporter without interceptors is not refused, and stays without. -/
theorem bare_install (hr : r.interceptors = []) (p : Platform) :
    (r.install p).1.interceptors = [] ∧ ∃ found, (r.install p).2.2 = .ok found := by
  cases hc : r.capture with
  | some c =>
      rw [install_of_installed (by rw [hc]; rfl)]
      exact ⟨hr, _, rfl⟩
  | none =>
      rw [install_eq hc, hr]
      exact ⟨rfl, _, rfl⟩

theorem bare_uninstall (hr : r.interceptors = []) (p : Platform) :
    (r.uninstall p).1.interceptors = [] := by
  rw [uninstall]
  split
  next =>
    rw [release, hr]
    rfl
  next => exact hr

/-- A reporter is installed exactly while it holds a capture. -/
def Consistent (r : Reporter) : Prop := r.isInstalled = r.capture.isSome

theorem consistent_install {result : Except Error (Option PriorCrash)} (hr : r.Consistent)
    (h : r.install p = (r', p', result)) :
    r'.Consistent ∧ ∀ found, result = .ok found → r'.isInstalled = true := by
  cases hc : r.capture with
  | some c =>
      rw [install_of_installed (by rw [hc]; rfl)] at h
      cases h
      exact ⟨hr, fun _ _ => hr.trans (by rw [hc]; rfl)⟩
  | none =>
      cases result with
      | ok found =>
          refine ⟨?_, fun _ _ => isInstalled_install hc h⟩
          obtain ⟨_, rfl⟩ := (install_ok hc h).2.1
          rfl
      | error e =>
          refine ⟨?_, nofun⟩
          rw [refused_eq h]
          exact hr

theorem consistent_uninstall (hr : r.Consistent) (p : Platform) : (r.uninstall p).1.Consistent := by
  rw [uninstall]
  split
  next => rfl
  next => exact hr

theorem isInstalled_uninstall (r : Reporter) (p : Platform) :
    (r.uninstall p).1.isInstalled = false := by
  rw [uninstall]
  split
  next => rfl
  next h => exact Bool.eq_false_iff.2 h

end Reporter

/-! ### Monitors and sweepers -/

namespace Host
variable {ids : Nat → String} {α : Type} {h h' : Host ids α} {id k : Nat} {m : Health.Monitor}

/-- A monitor that is started runs cycles from then on, if it did not before. -/
theorem startMonitor_cases (hm : h.monitor? id = some m) :
    ∃ m', timing m' = (m.ticker.or (some (.new m.interval .dropped h.now)), m.interval) ∧
      (h.setMonitor id m').Elsewhere (h.startMonitor id) := by
  refine ⟨(m.start h.now).1, ?_, ?_⟩
  · rw [Health.Monitor.start]
    split
    next hrun =>
      obtain ⟨t, ht⟩ := Option.isSome_iff_exists.1 hrun
      rw [timing, ht]
      rfl
    next hstop =>
      rw [Option.not_isSome_iff_eq_none.1 hstop]
      rfl
  · rw [startMonitor, hm]
    have hdelivered : (h.setMonitor id (m.start h.now).1).Elsewhere _ :=
      (Elsewhere.note _ (m.start h.now).2.2).trans (.deliverAll _ id (m.start h.now).2.1)
    exact hdelivered.trans (.soonIf _ _ _)

theorem stopMonitor_eq (hm : h.monitor? id = some m) :
    h.stopMonitor id = h.setMonitor id m.stop := by
  rw [stopMonitor, hm]

/-- A sweeper that is started comes after the others. -/
theorem startSweep?_cases {cancelled : Bool} (hs : h.startSweep? k cancelled = some (h', id)) :
    ∃ r s, h.registryAt? k = some r ∧ id = h.sweeps.length ∧
      ({ h with sweeps := h.sweeps ++ [s] } : Host ids α).Elsewhere h' ∧ s.registry = k ∧
      s.sweeper = if cancelled || decide (r.sweepInterval = 0)
        then (Task.Sweeper.new r.sweepInterval h.now).cancel else .new r.sweepInterval h.now := by
  rw [startSweep?] at hs
  obtain ⟨r, hr, hs⟩ := Option.bind_eq_some_iff.1 hs
  obtain ⟨_, -, hs⟩ := Option.bind_eq_some_iff.1 hs
  cases hs
  refine ⟨r, ⟨k, if cancelled || decide (r.sweepInterval = 0)
    then (Task.Sweeper.new r.sweepInterval h.now).cancel else .new r.sweepInterval h.now,
    decide (r.sweepInterval = 0)⟩, hr, rfl, .soonIf _ _ _, rfl, rfl⟩

/-- A sweeper cannot be started exactly if its first sweep lies past the end of the clock. -/
theorem startSweep?_eq_none_iff {r : Task.Registry} (hr : h.registryAt? k = some r)
    (cancelled : Bool) :
    h.startSweep? k cancelled = none ↔ Tick.after? h.now r.sweepInterval = none := by
  rw [startSweep?, show h.platform.registries[k]? = some r from hr, Option.bind_eq_bind,
    Option.bind_some]
  cases Tick.after? h.now r.sweepInterval with
  | none => exact ⟨fun _ => rfl, fun _ => rfl⟩
  | some t => exact ⟨nofun, nofun⟩

end Host

namespace Context
open Host (Elsewhere timing)
variable {ids : Nat → String} {α : Type} {config : Config} {c c' : Context} {h h' : Host ids α}

/-! ### What is true all along -/

/-- A monitor has the interval of the configuration, and while it runs its next cycle is at most
that far away. -/
structure Timely (config : Config) (now : Tick) (m : Health.Monitor) : Prop where
  interval : m.interval = config.health.interval
  period : ∀ t, m.ticker = some t → t.period = config.health.interval
  next_le : ∀ t, m.ticker = some t → t.next ≤ now + config.health.interval

theorem Timely.congr {now : Tick} {m m' : Health.Monitor} (hm : Timely config now m)
    (ht : timing m' = timing m) : Timely config now m' := by
  have hticker : m'.ticker = m.ticker := congrArg Prod.fst ht
  have hinterval : m'.interval = m.interval := congrArg Prod.snd ht
  exact ⟨hinterval.trans hm.interval, hticker ▸ hm.period, hticker ▸ hm.next_le⟩

theorem Timely.later {now time : Tick} {m : Health.Monitor} (hm : Timely config now m)
    (hle : now ≤ time) : Timely config time m :=
  { hm with next_le := fun t ht => Nat.le_trans (hm.next_le t ht) (Nat.add_le_add_right hle _) }

/-- A monitor that looks at its ticker. -/
theorem Timely.fired {now : Tick} {m m' : Health.Monitor} (hm : Timely config now m)
    (ht : timing m' = (m.ticker.map fun t => (t.fire now).2, m.interval)) :
    Timely config now m' := by
  have hticker : m'.ticker = m.ticker.map fun t => (t.fire now).2 := congrArg Prod.fst ht
  have hinterval : m'.interval = m.interval := congrArg Prod.snd ht
  refine ⟨hinterval.trans hm.interval, fun t ht => ?_, fun t ht => ?_⟩
  · obtain ⟨t₀, ht₀, rfl⟩ := Option.map_eq_some_iff.1 (hticker ▸ ht)
    exact (t₀.period_fire now).trans (hm.period t₀ ht₀)
  · obtain ⟨t₀, ht₀, rfl⟩ := Option.map_eq_some_iff.1 (hticker ▸ ht)
    have hperiod := hm.period t₀ ht₀
    have hle := hm.next_le t₀ ht₀
    rw [← hperiod] at hle ⊢
    exact Ticker.next_fire_le hle

/-- What is true of diagnostics and their host all along. -/
structure Sound (config : Config) (c : Context) (h : Host ids α) : Prop where
  registry : ∃ r, h.registryAt? c.registry = some r ∧ r.retention = config.tasks.retention ∧
    r.sweepInterval = config.tasks.sweepInterval
  monitor : ∃ m, h.monitor? c.monitor = some m ∧ Timely config h.now m
  reporter : c.reporter.Consistent
  /-- The sweeper that the context knows is live, unless there was a shutdown before. -/
  sweeper : ∀ id, c.sweeper = some id → c.cancelled = false → h.Sweeps id c.registry h.now
  cancelled : ∀ id s, c.sweeper = some id → c.cancelled = true → h.sweeps[id]? = some s →
    s.sweeper.isLive = false
  /-- No other sweeper of the registry is. -/
  only : ∀ id s, h.sweeps[id]? = some s → s.registry = c.registry → s.sweeper.isLive = true →
    c.sweeper = some id

/-- Whatever goes on on the host keeps it. -/
theorem Sound.host {e : Host.Event} (hc : Sound config c h) (hst : Host.Step h e h') :
    Sound config c h' where
  registry := by
    obtain ⟨r, hr, hretention, hinterval⟩ := hc.registry
    obtain ⟨act, hr'⟩ := hst.after hr
    exact ⟨_, hr', (r.retention_after _).trans hretention,
      (r.sweepInterval_after _).trans hinterval⟩
  monitor := by
    obtain ⟨m, hm, htimely⟩ := hc.monitor
    obtain ⟨m', hm', hcase⟩ := hst.timing hm
    refine ⟨m', hm', ?_⟩
    rcases hcase with ht | ⟨hnow, ht⟩
    · exact (htimely.congr ht).later hst.clock
    · rw [hnow]
      exact htimely.fired ht
  reporter := hc.reporter
  sweeper id hid hlive := (hst.keeps_sweeps (hc.sweeper id hid hlive)).mono hst.clock
  cancelled id s hid hcancelled hs := by
    obtain ⟨s₀, hs₀, -, hlive⟩ := hst.live hs
    rw [hlive]
    exact hc.cancelled id s₀ hid hcancelled hs₀
  only id s hs hk hlive := by
    obtain ⟨s₀, hs₀, hk₀, hlive₀⟩ := hst.live hs
    exact hc.only id s₀ hs₀ (hk₀ ▸ hk) (hlive₀ ▸ hlive)

theorem Sound.elsewhere (hc : Sound config c h) (he : h.Elsewhere h') : Sound config c h' :=
  hc.host (.elsewhere he)

/-! ### The parts of a start and a shutdown -/

/-- The reporter is installed or uninstalled. -/
theorem Sound.withReporter (hc : Sound config c h) {r : Reporter} {p : Platform} (hr : r.Consistent)
    (hp : p.registries = h.platform.registries ∧ p.now = h.platform.now) :
    Sound config { c with reporter := r } ({ h with platform := p } : Host ids α) := by
  have he : h.Elsewhere { h with platform := p } := ⟨hp.2, hp.1, rfl, rfl, rfl⟩
  exact { hc.elsewhere he with reporter := hr }

/-- The monitor is started or stopped. -/
theorem Sound.setMonitor (hc : Sound config c h) {m : Health.Monitor} (hm : Timely config h.now m) :
    Sound config c (h.setMonitor c.monitor m) ∧
      (h.setMonitor c.monitor m).monitor? c.monitor = some m := by
  obtain ⟨m₀, hm₀, -⟩ := hc.monitor
  have hset : (h.setMonitor c.monitor m).monitor? c.monitor = some m :=
    List.getElem?_set_self (List.getElem?_eq_some_iff.1 hm₀).1
  exact ⟨{ hc with monitor := ⟨m, hset, hm⟩ }, hset⟩

theorem Sound.startMonitor (hc : Sound config c h) :
    Sound config c (h.startMonitor c.monitor) ∧ (h.startMonitor c.monitor).now = h.now ∧
      ∃ m, (h.startMonitor c.monitor).monitor? c.monitor = some m ∧ m.ticker.isSome = true := by
  obtain ⟨m, hm, htimely⟩ := hc.monitor
  obtain ⟨m', ht, he⟩ := Host.startMonitor_cases hm
  have hticker : m'.ticker = m.ticker.or (some (.new m.interval .dropped h.now)) :=
    congrArg Prod.fst ht
  have hinterval : m'.interval = m.interval := congrArg Prod.snd ht
  have hnew : ∀ t, m'.ticker = some t → m.ticker = some t ∨ t = .new m.interval .dropped h.now := by
    intro t h't
    rcases Option.or_eq_some_iff.1 (hticker ▸ h't) with ht | ⟨-, ht⟩
    · exact Or.inl ht
    · exact Or.inr (Option.some.inj ht).symm
  have htimely' : Timely config h.now m' := by
    refine ⟨hinterval.trans htimely.interval, fun t ht => ?_, fun t ht => ?_⟩
    · rcases hnew t ht with ht | rfl
      · exact htimely.period t ht
      · exact htimely.interval
    · rcases hnew t ht with ht | rfl
      · exact htimely.next_le t ht
      · exact Nat.le_of_eq (congrArg (h.now + ·) htimely.interval)
  obtain ⟨hsound, hset⟩ := hc.setMonitor htimely'
  obtain ⟨m₁, hm₁, ht₁⟩ := he.timing hset
  refine ⟨hsound.elsewhere he, he.now, m₁, hm₁, ?_⟩
  rw [show m₁.ticker = m'.ticker from congrArg Prod.fst ht₁, hticker]
  cases m.ticker <;> rfl

theorem Sound.stopMonitor (hc : Sound config c h) :
    Sound config c (h.stopMonitor c.monitor) ∧ (h.stopMonitor c.monitor).now = h.now ∧
      ∃ m, (h.stopMonitor c.monitor).monitor? c.monitor = some m ∧ m.ticker = none := by
  obtain ⟨m, hm, htimely⟩ := hc.monitor
  obtain ⟨hsound, hset⟩ := hc.setMonitor (m := m.stop) ⟨htimely.interval, nofun, nofun⟩
  rw [Host.stopMonitor_eq hm]
  exact ⟨hsound, rfl, m.stop, hset, rfl⟩

/-- A sweeper is started, unless there is one. -/
theorem Sound.startSweeper (hpos : 0 < config.tasks.sweepInterval) (hc : Sound config c h)
    (hs : c.startSweeper? h = some (c', h')) :
    Sound config c' h' ∧ (∃ id, c' = { c with sweeper := some id }) ∧ h'.now = h.now ∧
      ∀ m, h.monitor? c.monitor = some m →
        ∃ m', h'.monitor? c.monitor = some m' ∧ timing m' = timing m := by
  rw [startSweeper?] at hs
  split at hs
  next id hid =>
    cases hs
    refine ⟨hc, ⟨id, ?_⟩, rfl, fun m hm => ⟨m, hm, rfl⟩⟩
    rw [← hid]
  next hnone =>
    obtain ⟨⟨h₁, id⟩, hstart, heq⟩ := Option.map_eq_some_iff.1 hs
    cases heq
    obtain ⟨r, s, hr, rfl, he, hk, hsweeper⟩ := Host.startSweep?_cases hstart
    obtain ⟨r₀, hr₀, -, hinterval⟩ := hc.registry
    cases hr.symm.trans hr₀
    have hinterval_pos : 0 < r.sweepInterval := hinterval ▸ hpos
    rw [decide_eq_false (Nat.pos_iff_ne_zero.1 hinterval_pos), Bool.or_false] at hsweeper
    -- The new sweeper is the last one, and the only one that can be live.
    have hnew :
        ({ h with sweeps := h.sweeps ++ [s] } : Host ids α).sweeps[h.sweeps.length]? = some s :=
      List.getElem?_concat_length
    have hsound : Sound config { c with sweeper := some h.sweeps.length }
        ({ h with sweeps := h.sweeps ++ [s] } : Host ids α) :=
      { registry := hc.registry
        monitor := hc.monitor
        reporter := hc.reporter
        sweeper := fun id hid hlive => by
          cases hid
          rw [show c.cancelled = false from hlive] at hsweeper
          have hsweeping := Task.Sweeping.new h.now hinterval_pos
          refine ⟨s, r, hnew, hk, hr, ?_⟩
          rw [hsweeper]
          exact ⟨hsweeping, .of_sweeping hsweeping⟩
        cancelled := fun id s₁ hid hcancelled hs₁ => by
          cases hid
          cases hnew.symm.trans hs₁
          rw [show c.cancelled = true from hcancelled] at hsweeper
          rw [hsweeper]
          rfl
        only := fun id s₁ hs₁ hk₁ hlive => by
          rcases entry_concat hs₁ with ⟨rfl, -⟩ | hs₁
          · rfl
          · cases hnone.symm.trans (hc.only id s₁ hs₁ hk₁ hlive) }
    exact ⟨hsound.elsewhere he, ⟨_, rfl⟩, he.now, fun m hm => he.timing hm⟩

/-- The host after the sweeper was cancelled, if there is one. -/
def unswept (c : Context) (h : Host ids α) : Host ids α :=
  match c.sweeper with
  | none => h
  | some id => h.cancelSweep id

theorem platform_unswept (c : Context) (h : Host ids α) : (c.unswept h).platform = h.platform := by
  rw [unswept]
  split <;> rfl

/-- The sweeper is cancelled, and every later one will be. -/
theorem Sound.stopSweeper (hc : Sound config c h) :
    Sound config { c with cancelled := true, sweeper := none } (c.unswept h) := by
  rw [unswept]
  split
  next hnone =>
    exact { hc with
      sweeper := nofun
      cancelled := nofun
      only := fun id s hs hk hlive => by cases hnone.symm.trans (hc.only id s hs hk hlive) }
  next id hid =>
    refine { hc with sweeper := nofun, cancelled := nofun, only := fun j s hs hk hlive => ?_ }
    rw [Host.cancelSweep, List.getElem?_modify] at hs
    obtain ⟨s₀, hs₀, rfl⟩ := Option.map_eq_some_iff.1 hs
    by_cases hj : id = j
    · simp only [hj, if_true] at hlive
      cases hlive
    · rw [if_neg hj] at hk hlive
      exact absurd (Option.some.inj (hid.symm.trans (hc.only j s₀ hs₀ hk hlive))) hj

/-! ### Started and shut down -/

/-- After a start that succeeded, at `time`. -/
structure Running (c : Context) (h : Host ids α) (time : Tick) : Prop where
  installed : c.reporter.isInstalled = true
  monitor : ∃ m, h.monitor? c.monitor = some m ∧ m.ticker.isSome = true
  sweeper : ∃ id, c.sweeper = some id ∧ (c.cancelled = false → h.Sweeps id c.registry time)
  time_le : time ≤ h.now

/-- After a shutdown. -/
structure Stopped (c : Context) (h : Host ids α) : Prop where
  uninstalled : c.reporter.isInstalled = false
  monitor : ∃ m, h.monitor? c.monitor = some m ∧ m.ticker = none
  sweeper : c.sweeper = none

theorem Running.host {e : Host.Event} {time : Tick} (hc : Running c h time)
    (hst : Host.Step h e h') : Running c h' time where
  installed := hc.installed
  monitor := by
    obtain ⟨m, hm, hrun⟩ := hc.monitor
    obtain ⟨m', hm', hcase⟩ := hst.timing hm
    refine ⟨m', hm', ?_⟩
    rcases hcase with ht | ⟨-, ht⟩
    · rw [show m'.ticker = m.ticker from congrArg Prod.fst ht]
      exact hrun
    · rw [show m'.ticker = _ from congrArg Prod.fst ht, Option.isSome_map]
      exact hrun
  sweeper := by
    obtain ⟨id, hid, hsweeps⟩ := hc.sweeper
    exact ⟨id, hid, fun hlive => hst.keeps_sweeps (hsweeps hlive)⟩
  time_le := Nat.le_trans hc.time_le hst.clock

theorem Stopped.host {e : Host.Event} (hc : Stopped c h) (hst : Host.Step h e h') :
    Stopped c h' where
  uninstalled := hc.uninstalled
  monitor := by
    obtain ⟨m, hm, hstop⟩ := hc.monitor
    obtain ⟨m', hm', hcase⟩ := hst.timing hm
    refine ⟨m', hm', ?_⟩
    rcases hcase with ht | ⟨-, ht⟩
    · rw [show m'.ticker = m.ticker from congrArg Prod.fst ht, hstop]
    · rw [show m'.ticker = _ from congrArg Prod.fst ht, hstop]
      rfl
  sweeper := hc.sweeper

theorem Sound.start (hpos : 0 < config.tasks.sweepInterval) (hc : Sound config c h) :
    Sound config (c.start h).1 (c.start h).2.1 ∧ (c.start h).2.1.now = h.now ∧
      (c.start h).1.cancelled = c.cancelled ∧
      (c.start h).1.reporter = (c.reporter.install h.platform).1 ∧
      ∀ found, (c.start h).2.2 = .running found →
        Running (c.start h).1 (c.start h).2.1 h.now := by
  have htasks := c.reporter.tasks_install h.platform
  rw [Context.start]
  split
  next r p e hinstall =>
    rw [hinstall] at htasks
    exact ⟨hc.withReporter (Reporter.consistent_install hc.reporter hinstall).1 htasks, htasks.2,
      rfl, by rw [hinstall], nofun⟩
  next r p prior hinstall =>
    rw [hinstall] at htasks
    obtain ⟨hconsistent, hinstalled⟩ := Reporter.consistent_install hc.reporter hinstall
    obtain ⟨hmonitor, hnow, m, hm, hrun⟩ := (hc.withReporter hconsistent htasks).startMonitor
    dsimp only
    split
    next c' h' hsweeper =>
      obtain ⟨hsound, ⟨id, rfl⟩, hnow', hkept⟩ := hmonitor.startSweeper hpos hsweeper
      obtain ⟨m', hm', ht⟩ := hkept m hm
      have hstart : h'.now = h.now := hnow'.trans (hnow.trans htasks.2)
      refine ⟨hsound, hstart, rfl, by rw [hinstall], fun _ _ => ⟨hinstalled prior rfl,
        ⟨m', hm', ?_⟩, ⟨id, rfl, fun hlive => ?_⟩, Nat.le_of_eq hstart.symm⟩⟩
      · rw [show m'.ticker = m.ticker from congrArg Prod.fst ht]
        exact hrun
      · rw [← hstart]
        exact hsound.sweeper id rfl hlive
    next =>
      have hpanic := Elsewhere.panic
        (Host.startMonitor ({ h with platform := p } : Host ids α) c.monitor) clockPanic
      exact ⟨hmonitor.elsewhere hpanic, hpanic.now.trans (hnow.trans htasks.2), rfl,
        by rw [hinstall], nofun⟩

theorem startSweeper?_eq_none_iff {r : Task.Registry} (hr : h.registryAt? c.registry = some r) :
    c.startSweeper? h = none ↔
      c.sweeper = none ∧ Tick.after? h.now r.sweepInterval = none := by
  rw [startSweeper?]
  split
  next hid =>
    rw [hid]
    exact ⟨nofun, nofun⟩
  next hnone =>
    rw [Option.map_eq_none_iff, Host.startSweep?_eq_none_iff hr, hnone, eq_self, true_and]

/-- A start panics exactly if the reporter was installed, and then a sweeper is to be started whose
first sweep lies past the end of the clock. -/
theorem Sound.start_panicked_iff (hc : Sound config c h) :
    (c.start h).2.2 = .panicked ↔
      (∃ found, (c.reporter.install h.platform).2.2 = .ok found) ∧ c.sweeper = none ∧
        Tick.after? h.now config.tasks.sweepInterval = none := by
  have htasks := c.reporter.tasks_install h.platform
  rw [Context.start]
  split
  next hinstall =>
    rw [hinstall]
    exact ⟨nofun, fun ⟨⟨_, hok⟩, _⟩ => nomatch hok⟩
  next r p found hinstall =>
    rw [hinstall] at htasks
    obtain ⟨hmonitor, hnow, -⟩ := (hc.withReporter
      (Reporter.consistent_install hc.reporter hinstall).1 htasks).startMonitor
    obtain ⟨r₁, hr₁, -, hinterval⟩ := hmonitor.registry
    have hpnow : ({ h with platform := p } : Host ids α).now = h.now := htasks.2
    have hiff := startSweeper?_eq_none_iff (c := { c with reporter := r }) hr₁
    rw [hinterval, hnow, hpnow] at hiff
    rw [hinstall]
    dsimp only
    split
    next hsome =>
      rw [hsome] at hiff
      exact ⟨nofun, fun ⟨_, hnone⟩ => nomatch hiff.2 hnone⟩
    next hnone => exact ⟨fun _ => ⟨⟨found, rfl⟩, hiff.1 hnone⟩, fun _ => rfl⟩

/-- A start succeeds if the reporter can be installed and the clock can tell when the first sweep is
due. -/
theorem Sound.start_running (hc : Sound config c h) {r : Reporter} {p : Platform}
    {found : Option PriorCrash} (hinstall : c.reporter.install h.platform = (r, p, .ok found))
    (hclock : (Tick.after? h.now config.tasks.sweepInterval).isSome = true) :
    (c.start h).2.2 = .running found := by
  have hnot : (c.start h).2.2 ≠ .panicked := fun hpanicked => by
    rw [(hc.start_panicked_iff.1 hpanicked).2.2] at hclock
    cases hclock
  rw [Context.start, hinstall] at hnot ⊢
  dsimp only at hnot ⊢
  split at hnot
  next => rfl
  next => exact absurd rfl hnot

theorem Sound.shutdown (hc : Sound config c h) :
    Sound config (c.shutdown h).1 (c.shutdown h).2 ∧ (c.shutdown h).2.now = h.now ∧
      (c.shutdown h).1.cancelled = true ∧
      (∃ p, (c.shutdown h).1.reporter = (c.reporter.uninstall p).1) ∧
      Stopped (c.shutdown h).1 (c.shutdown h).2 := by
  obtain ⟨hmonitor, hnow, m, hm, hstop⟩ := hc.stopMonitor
  let p := (c.unswept (h.stopMonitor c.monitor)).platform
  have hsound := hmonitor.stopSweeper.withReporter (Reporter.consistent_uninstall hc.reporter p)
    (c.reporter.tasks_uninstall p)
  have hp : p = (h.stopMonitor c.monitor).platform := platform_unswept c _
  have hnow' : (c.shutdown h).2.now = p.now := (c.reporter.tasks_uninstall p).2
  refine ⟨hsound, ?_, rfl, ⟨p, rfl⟩, c.reporter.isInstalled_uninstall p, ⟨m, ?_, hstop⟩, rfl⟩
  · rw [hnow', hp]
    exact hnow
  · rw [Context.shutdown]
    cases c.sweeper <;> exact hm

end Context
end Vigil
