import Vigil.Proofs.Context.Run
import Vigil.Proofs.Host.Time

/-!
# Context — its services

While the diagnostics of a program are started, their reporter is installed, their monitor runs
cycles and a sweeper keeps their registry swept; once they are shut down none of this goes on.  But
a shutdown is for good as far as the sweeper is concerned: all sweepers of a context end with its
first shutdown, also those that later starts begin.

* `History`: what is true after any starts and shutdowns, whatever went on between them.
* `Running.age_le`: how long ago tasks can have ended that are held while there is a sweeper.
* `Sound.rests`, `Stopped.idle`: there are no sweeps after a shutdown, and no cycles.
* `Bare`: diagnostics without interceptors, which can always be started.

**Main theorem** (`services`): what there is after a start and after a shutdown.  `unswept_restart`
is a run in which a start after a shutdown leaves the registry unswept.
-/

namespace Vigil.Context
variable {ids : Nat → String} {α : Type} {config : Config} {c : Context} {h h' : Host ids α}

/-! ### Runs -/

/-- What happens to diagnostics, or on their host. -/
inductive Event where
  /-- They were started at a time, and what came of it. -/
  | started (time : Tick) (outcome : Started)
  | shutdown
  | host (e : Host.Event)

/-- A step of diagnostics and their host. -/
inductive Step : Context × Host ids α → Event → Context × Host ids α → Prop where
  | start (c : Context) (h : Host ids α) :
      Step (c, h) (.started h.now (c.start h).2.2) ((c.start h).1, (c.start h).2.1)
  | shutdown (c : Context) (h : Host ids α) : Step (c, h) .shutdown (c.shutdown h)
  | host (c : Context) {h h' : Host ids α} {e : Host.Event} (hst : Host.Step h e h') :
      Step (c, h) (.host e) (c, h')

/-- A start or a shutdown. -/
def Event.isCall : Event → Bool
  | .host _ => false
  | _ => true

/-- The last start or shutdown. -/
def latest? (es : List Event) : Option Event := (es.filter Event.isCall).getLast?

theorem latest?_call (es : List Event) {e : Event} (he : e.isCall = true) :
    latest? (es ++ [e]) = some e := by
  rw [latest?, List.filter_append, List.filter_cons_of_pos he, List.filter_nil,
    List.getLast?_concat]

theorem latest?_hosts (es : List Event) (fs : List Host.Event) :
    latest? (es ++ fs.map .host) = latest? es := by
  have hnone : (fs.map .host).filter Event.isCall = [] :=
    List.filter_eq_nil_iff.2 fun e he => by
      obtain ⟨f, -, rfl⟩ := List.mem_map.1 he
      exact Bool.false_ne_true
  rw [latest?, List.filter_append, hnone, List.append_nil, latest?]

/-- What goes on on the host goes on beside its diagnostics. -/
theorem run_hosts (c : Context) {fs : List Host.Event} (hrun : Run Host.Step h fs h') :
    Run Step (c, h) (fs.map .host) (c, h') := by
  induction hrun with
  | refl h => exact .refl (c, h)
  | more hst _ ih => exact .more (.host c hst) ih

/-- What is true after the events `es`. -/
structure History (config : Config) (es : List Event) (w : Context × Host ids α) : Prop where
  sound : Sound config w.1 w.2
  cancelled : w.1.cancelled = true ↔ .shutdown ∈ es
  running : ∀ time found, latest? es = some (.started time (.running found)) →
    Running w.1 w.2 time
  stopped : latest? es = some .shutdown → Stopped w.1 w.2

theorem History.new (config : Config) (interceptors : List Interceptor) (p : Platform) :
    History config [] (Context.new config interceptors (Host.new p : Host ids α)) where
  sound :=
    { registry := ⟨_, List.getElem?_concat_length, rfl, rfl⟩
      monitor := ⟨_, rfl, rfl, nofun, nofun⟩
      reporter := rfl
      sweeper := nofun
      cancelled := nofun
      only := nofun }
  cancelled := ⟨nofun, nofun⟩
  running := nofun
  stopped := nofun

theorem History.step (hpos : 0 < config.tasks.sweepInterval) {es : List Event} {e : Event}
    {w w' : Context × Host ids α} (hw : History config es w) (hst : Step w e w') :
    History config (es ++ [e]) w' := by
  have hmem : ∀ e : Event, e ≠ .shutdown → (.shutdown ∈ es ++ [e] ↔ .shutdown ∈ es) := by
    intro e he
    rw [List.mem_append, List.mem_singleton]
    exact or_iff_left fun heq => he heq.symm
  cases hst with
  | start c h =>
      obtain ⟨hsound, -, hcancelled, -, hrunning⟩ := hw.sound.start hpos
      refine ⟨hsound, ?_, fun time found hlatest => ?_, fun hlatest => ?_⟩
      · rw [hcancelled, hmem (.started _ _) nofun]
        exact hw.cancelled
      · rw [latest?_call es rfl] at hlatest
        injection hlatest with hstarted
        injection hstarted with htime hfound
        subst htime
        exact hrunning found hfound
      · rw [latest?_call es rfl] at hlatest
        cases hlatest
  | shutdown c h =>
      obtain ⟨hsound, -, hcancelled, -, hstopped⟩ := hw.sound.shutdown
      refine ⟨hsound, ?_, fun time found hlatest => ?_, fun _ => hstopped⟩
      · exact ⟨fun _ => List.mem_append_right _ (List.mem_singleton_self _), fun _ => hcancelled⟩
      · rw [latest?_call es rfl] at hlatest
        cases hlatest
  | @host c _ _ e hst =>
      have hlatest : latest? (es ++ [.host e]) = latest? es := latest?_hosts es [e]
      exact ⟨hw.sound.host hst, hw.cancelled.trans (hmem (.host e) nofun).symm,
        fun time found h => (hw.running time found (hlatest.symm.trans h)).host hst,
        fun h => (hw.stopped (hlatest.symm.trans h)).host hst⟩

/-! ### What there is -/

/-- No sweeper of the registry is live after a shutdown, and none that is started later. -/
theorem Sound.not_live (hc : Sound config c h) (hoff : c.cancelled = true ∨ c.sweeper = none)
    {id : Nat} {s : Host.Sweep} (hs : h.sweeps[id]? = some s) (hk : s.registry = c.registry) :
    s.sweeper.isLive = false := by
  refine Bool.eq_false_iff.2 fun hlive => ?_
  have hid := hc.only id s hs hk hlive
  rcases hoff with hcancelled | hnone
  · rw [hc.cancelled id s hid hcancelled hs] at hlive
    cases hlive
  · cases hnone.symm.trans hid

/-- So no sweep is ever due after a shutdown. -/
theorem Sound.rests (hc : Sound config c h) (hcancelled : c.cancelled = true) :
    h.Rests c.registry := by
  intro id s d hs hk hd
  rw [Task.Sweeper.deadline?, hc.not_live (Or.inl hcancelled) hs hk] at hd
  cases hd

/-- While there is a sweeper, and no sweep is due, no task is held that ended long ago. -/
theorem Running.age_le {time : Tick} (hc : Sound config c h) (hrun : Running c h time)
    (hlive : c.cancelled = false) (hlater : time + config.tasks.sweepInterval ≤ h.now)
    (hrest : h.Rests c.registry) {r : Task.Registry} {id : String} {x : Task.Record} {t : Tick}
    (hr : h.registryAt? c.registry = some r) (hx : r.get? id = some x) (ht : x.endedAt = some t) :
    h.now - t ≤ config.tasks.retention + config.tasks.sweepInterval := by
  obtain ⟨i, -, hsweeps⟩ := hrun.sweeper
  obtain ⟨r₀, hr₀, hretention, hinterval⟩ := hc.registry
  cases hr.symm.trans hr₀
  have hage := (hsweeps hlive).age_le hrest (hinterval ▸ hlater) hr hx ht
  rwa [hretention, hinterval] at hage

/-- The step is neither a sweep of the registry that a sweeper makes, nor a cycle of the monitor. -/
def Idle (c : Context) (e : Host.Event) : Prop :=
  (∀ id use, e.source = .sweeper id → e.use? = some (c.registry, use) → use.act = .idle) ∧
    ∀ n, e.source = .monitor c.monitor n → n = 0

theorem Stopped.idle (hc : Sound config c h) (hstop : Stopped c h) {e : Host.Event}
    (hst : Host.Step h e h') : c.Idle e := by
  refine ⟨fun id use he hu => ?_, fun n he => ?_⟩
  · obtain ⟨s, hs, huse⟩ := hst.swept he
    obtain ⟨_, -, heq⟩ := Option.map_eq_some_iff.1 (huse.symm.trans hu)
    injection heq with hk heq
    subst heq
    exact Task.Sweeper.act_of_not_live (hc.not_live (Or.inr hstop.sweeper) hs hk) h.now
  · obtain ⟨m, hm, hticker⟩ := hstop.monitor
    rw [hst.cycles hm he, Host.cyclesDue, hticker]
    rfl

/-- So it is with everything that goes on after a shutdown. -/
theorem Stopped.idle_run {es : List Host.Event} (hc : Sound config c h) (hstop : Stopped c h)
    (hrun : Run Host.Step h es h') : ∀ e ∈ es, c.Idle e := by
  induction hrun with
  | refl => exact nofun
  | more hst _ ih =>
      intro e he
      rcases List.mem_cons.1 he with rfl | he
      · exact hstop.idle hc hst
      · exact ih (hc.host hst) (hstop.host hst) e he

/-- A configuration that can be used has intervals. -/
theorem intervals_pos (h : config.problem? = none) :
    0 < config.tasks.sweepInterval ∧ 0 < config.health.interval ∧
      0 < config.health.pingTimeout := by
  rw [Config.problem?] at h
  repeat' split at h
  all_goals try cases h
  next hsweep hping _ _ _ =>
    exact ⟨Nat.mul_pos (Nat.pos_of_ne_zero hsweep) (by decide),
      Nat.mul_pos (Nat.pos_of_ne_zero fun h => hping (Or.inl h)) (by decide),
      Nat.mul_pos (Nat.pos_of_ne_zero fun h => hping (Or.inr h)) (by decide)⟩

/-! ### Diagnostics that are only started and shut down -/

/-- Diagnostics without interceptors. -/
def bare : Config :=
  { dataDir := "data", crash := { captureSignals := false, capturePanics := false } }

theorem problem?_bare : bare.problem? = none := rfl

/-- They were just started or shut down, all at the beginning of time. -/
structure Bare (es : List Event) (w : Context × Host ids α) : Prop where
  history : History bare es w
  interceptors : w.1.reporter.interceptors = []
  now : w.2.now = 0

theorem Bare.new (p : Platform) (hp : p.now = 0) :
    Bare [] (Context.new bare (Context.interceptors bare) (Host.new p : Host ids α)) :=
  ⟨.new bare _ p, rfl, hp⟩

theorem Bare.start {es : List Event} {w : Context × Host ids α} (hw : Bare es w) :
    ∃ found w', Step w (.started 0 (.running found)) w' ∧
      Bare (es ++ [.started 0 (.running found)]) w' := by
  obtain ⟨c, h⟩ := w
  have hpos := (intervals_pos problem?_bare).1
  obtain ⟨-, hnow, -, hreporter, -⟩ := hw.history.sound.start hpos
  obtain ⟨hbare, found, hfound⟩ := Reporter.bare_install hw.interceptors h.platform
  have hclock : (Tick.after? h.now bare.tasks.sweepInterval).isSome = true := by
    rw [show h.now = 0 from hw.now]
    decide
  have hst := Step.start c h
  rw [hw.history.sound.start_running (Prod.ext rfl (Prod.ext rfl hfound)) hclock,
    show h.now = 0 from hw.now] at hst
  exact ⟨found, _, hst, hw.history.step hpos hst, hreporter ▸ hbare, hnow.trans hw.now⟩

theorem Bare.shutdown {es : List Event} {w : Context × Host ids α} (hw : Bare es w) :
    ∃ w', Step w .shutdown w' ∧ Bare (es ++ [.shutdown]) w' := by
  obtain ⟨c, h⟩ := w
  have hpos := (intervals_pos problem?_bare).1
  obtain ⟨-, hnow, -, ⟨p, hreporter⟩, -⟩ := hw.history.sound.shutdown
  have hst := Step.shutdown c h
  exact ⟨_, hst, hw.history.step hpos hst, hreporter ▸ Reporter.bare_uninstall hw.interceptors p,
    hnow.trans hw.now⟩

/-- A registry can be used at any time. -/
theorem exists_call {k : Nat} {r : Task.Registry} (hr : h.registryAt? k = some r) (act : Task.Act) :
    ∃ e h', Host.Step h e h' ∧ h'.now = h.now ∧ h'.registryAt? k = some (r.after ⟨h.now, act⟩) := by
  have hst := Host.Step.call h k () (fun r => (r.after ⟨h.now, act⟩, (), [])) (fun _ => act)
    fun _ => rfl
  refine ⟨_, _, hst, h.platform.now_withRegistry k _ _, ?_⟩
  rw [hst.registry, hr, Option.map_some, Host.Event.effect_uses hr]

/-- A task is started and completed, then time passes. -/
theorem ended_earlier {k : Nat} {r : Task.Registry} (hr : h.registryAt? k = some r)
    (id name : String) (d : Span) :
    ∃ es h' r' x, Run Host.Step h es h' ∧ h'.now = h.now + d ∧ h'.registryAt? k = some r' ∧
      r'.get? id = some x ∧ x.endedAt = some h.now := by
  obtain ⟨_, h₁, hst₁, hnow₁, hr₁⟩ := exists_call hr (.started id name)
  obtain ⟨_, h₂, hst₂, hnow₂, hr₂⟩ := exists_call hr₁ (.attempted id .succeeded true)
  have hst₃ : Host.Step h₂ _ (h₂.atTime (h₂.now + d)) := .pass h₂ (Nat.le_add_right _ d)
  have hstarted := Task.Registry.get?_after_start (r := r) (e := ⟨h.now, .started id name⟩) rfl
  have hended := Task.Registry.get?_after_attempt (r := r.after ⟨h.now, .started id name⟩)
    (Task.Event.attempt?_attempted id .succeeded true h₁.now)
  rw [hstarted] at hended
  refine ⟨_, _, _, _, .more hst₁ (.more hst₂ (.one hst₃)), ?_, hr₂, hended, ?_⟩
  · rw [← hnow₁, ← hnow₂]
    rfl
  · rw [← hnow₁]
    rfl

/-! ### Whole runs -/

/-- **The services of diagnostics.**  With a configuration that can be used, after any starts and
shutdowns, whatever the interceptors do and whatever went on in between:
* if the last of them is a start that succeeded, the reporter is installed, and the monitor runs
  cycles, the next one at most one interval ahead.  A sweeper of the registry is live exactly if
  there was no shutdown before.  Then, from one sweep interval after the start and whenever no sweep
  is due, no task is held that ended longer ago than the retention and one sweep interval;
* if the last of them is a shutdown, the reporter is not installed, and while time passes, at once
  or little by little, no sweeper sweeps the registry and the monitor runs no cycle. -/
theorem services {interceptors : List Interceptor} {p : Platform} {es : List Event}
    (hconfig : config.problem? = none)
    (hrun : Run Step (Context.new config interceptors (Host.new p)) es (c, h)) :
    (∀ time found, latest? es = some (.started time (.running found)) →
      c.reporter.isInstalled = true ∧
      (∃ m t, h.monitor? c.monitor = some m ∧ m.ticker = some t ∧
        t.period = config.health.interval ∧ 0 < t.period ∧ t.next ≤ h.now + t.period) ∧
      ((∃ (id : Nat) (s : Host.Sweep), h.sweeps[id]? = some s ∧ s.registry = c.registry ∧
        s.sweeper.isLive = true) ↔ .shutdown ∉ es) ∧
      (.shutdown ∉ es → time + config.tasks.sweepInterval ≤ h.now → h.Rests c.registry →
        ∀ r id x t, h.registryAt? c.registry = some r → r.get? id = some x → x.endedAt = some t →
          h.now - t ≤ config.tasks.retention + config.tasks.sweepInterval)) ∧
    (latest? es = some .shutdown →
      c.reporter.isInstalled = false ∧
      ∀ d h', h' = h.sleep d ∨ h' = h.jump d →
        ∃ fs, Run Host.Step h fs h' ∧ ∀ e ∈ fs, e.source.Unasked ∧ c.Idle e) := by
  obtain ⟨hpos, hinterval, -⟩ := intervals_pos hconfig
  have hw : History config es (c, h) :=
    hrun.history (History.new config interceptors p) fun ih hst => ih.step hpos hst
  refine ⟨fun time found hlatest => ?_, fun hlatest => ?_⟩
  · have hrunning := hw.running time found hlatest
    have hlive : .shutdown ∉ es ↔ c.cancelled = false := by
      rw [← hw.cancelled, Bool.not_eq_true]
    refine ⟨hrunning.installed, ?_, ⟨?_, ?_⟩, fun hnot hlater hrest r id x t hr hx ht => ?_⟩
    · obtain ⟨m, hm, hticker⟩ := hrunning.monitor
      obtain ⟨m₁, hm₁, htimely⟩ := hw.sound.monitor
      cases hm.symm.trans hm₁
      obtain ⟨t, ht⟩ := Option.isSome_iff_exists.1 hticker
      have hperiod := htimely.period t ht
      exact ⟨m, t, hm, ht, hperiod, hperiod ▸ hinterval, hperiod ▸ htimely.next_le t ht⟩
    · rintro ⟨id, s, hs, hk, hs_live⟩
      refine hlive.2 (Bool.eq_false_iff.2 fun hcancelled => ?_)
      rw [hw.sound.not_live (Or.inl hcancelled) hs hk] at hs_live
      cases hs_live
    · intro hnot
      obtain ⟨id, -, hsweeps⟩ := hrunning.sweeper
      obtain ⟨s, _, hs, hk, -, hsweeping, -⟩ := hsweeps (hlive.1 hnot)
      exact ⟨id, s, hs, hk, hsweeping.live⟩
    · exact hrunning.age_le hw.sound (hlive.1 hnot) hlater hrest hr hx ht
  · have hstopped := hw.stopped hlatest
    refine ⟨hstopped.uninstalled, fun d h' hpassed => ?_⟩
    have hreaches : h.Reaches Host.Source.Unasked h' := by
      rcases hpassed with rfl | rfl
      · exact (Host.reaches_sleep h d).1
      · exact (Host.reaches_jump h d).1
    obtain ⟨fs, hfs, hunasked⟩ := hreaches
    exact ⟨fs, hfs, fun e he => ⟨hunasked e he, hstopped.idle_run hw.sound hfs e he⟩⟩

/-- Diagnostics that were started, one sweep interval later. -/
theorem services_started :
    let p : Platform := .new (.new []) 0 ⟨0, 0, by decide⟩ 7 "" ""
    let w := Context.new bare (interceptors bare) (Host.new p : Host Host.numbered Unit)
    ∃ (found : Option PriorCrash) (fs : List Host.Event) (c : Context)
      (h : Host Host.numbered Unit),
      Run Step w ([.started 0 (.running found)] ++ fs.map .host) (c, h) ∧
      c.reporter.isInstalled = true ∧
      (∃ (id : Nat) (s : Host.Sweep), h.sweeps[id]? = some s ∧ s.registry = c.registry ∧
        s.sweeper.isLive = true) ∧
      0 + bare.tasks.sweepInterval ≤ h.now ∧ h.Rests c.registry ∧
      ∀ r id x t, h.registryAt? c.registry = some r → r.get? id = some x → x.endedAt = some t →
        h.now - t ≤ bare.tasks.retention + bare.tasks.sweepInterval := by
  intro p w
  obtain ⟨found, ⟨c, h⟩, hst, hw⟩ := (show Bare [] w from .new p rfl).start
  let h₁ := h.atTime (h.now + bare.tasks.sweepInterval)
  have hpass : Host.Step h _ h₁ := .pass h (Nat.le_add_right _ _)
  obtain ⟨fs, hfs, -⟩ := Host.reaches_settle h₁
  have hrun := (Run.one hst).trans (run_hosts c (.more hpass hfs))
  obtain ⟨hinstalled, -, hlive, hage⟩ :=
    (services problem?_bare hrun).1 0 found (latest?_hosts [_] (_ :: fs))
  have hzero : h.now = 0 := hw.now
  have hlater : 0 + bare.tasks.sweepInterval ≤ h₁.settle.now := by
    rw [(Host.reaches_settle h₁).now, ← hzero]
    exact Nat.le_refl _
  have hrest : h₁.settle.Rests c.registry := by
    obtain ⟨r, hr, -⟩ := hw.history.sound.registry
    exact Host.rests_settle (Option.isSome_iff_exists.2 ⟨r, hr⟩)
  exact ⟨found, _, c, h₁.settle, hrun, hinstalled, hlive.2 (by simp), hlater, hrest,
    hage (by simp) hlater hrest⟩

/-- Diagnostics that were started, shut down and started again, successfully: a task that has ended
since then is held longer than the retention and one sweep interval, though no sweep is due. -/
theorem unswept_restart :
    let p : Platform := .new (.new []) 0 ⟨0, 0, by decide⟩ 7 "" ""
    let w := Context.new bare (interceptors bare) (Host.new p : Host Host.numbered Unit)
    ∃ (found₁ found : Option PriorCrash) (fs : List Host.Event) (c : Context)
      (h : Host Host.numbered Unit),
      let es :=
        [.started 0 (.running found₁), .shutdown, .started 0 (.running found)] ++ fs.map .host
      Run Step w es (c, h) ∧ latest? es = some (.started 0 (.running found)) ∧
      0 + bare.tasks.sweepInterval ≤ h.now ∧ h.Rests c.registry ∧
      ∃ r x t, h.registryAt? c.registry = some r ∧ r.get? "a" = some x ∧ x.endedAt = some t ∧
        bare.tasks.retention + bare.tasks.sweepInterval < h.now - t := by
  intro p w
  obtain ⟨found₁, w₁, hst₁, hw₁⟩ := (show Bare [] w from .new p rfl).start
  obtain ⟨w₂, hst₂, hw₂⟩ := hw₁.shutdown
  obtain ⟨found, ⟨c, h⟩, hst₃, hw₃⟩ := hw₂.start
  obtain ⟨r, hr, -⟩ := hw₃.history.sound.registry
  obtain ⟨fs, h', r', x, hrun, hnow, hr', hx, ht⟩ := ended_earlier hr "a" "copy" (.ofSeconds 361)
  have hzero : h.now = 0 := hw₃.now
  have hall := (Run.more hst₁ (.more hst₂ (.one hst₃))).trans (run_hosts c hrun)
  have hw := hall.history (History.new bare (interceptors bare) p) fun ih hst =>
    ih.step (intervals_pos problem?_bare).1 hst
  have hcancelled : c.cancelled = true := hw.cancelled.2 (by simp)
  refine ⟨found₁, found, fs, c, h', hall, latest?_hosts _ fs, ?_, hw.sound.rests hcancelled,
    r', x, h.now, hr', hx, ht, ?_⟩
  · rw [hnow, hzero]
    decide
  · rw [hnow, hzero]
    decide

end Vigil.Context
