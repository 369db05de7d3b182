import Vigil.Proofs.Context.Run
import Vigil.Proofs.Host.Time

/-!
# Host — how long tasks are held that have ended

A registry that is swept by its starts, by callers, and by any number of sweepers, which come and
go.  All this happens at any times, and time may pass though sweeps are due.

* `Ended`: something is true of the ends of all tasks that have ended.
* `UpToDate`, `UpToDate.after`: what is held has ended no longer than the retention before the last
  sweep.
* `kept_after`: what ended no longer than the retention ago is not swept.  `ended_after_start`: what
  a start leaves ended no longer than the retention and one sweep interval ago.
* `Step.registry`, `Step.keeps_sweeps`: what becomes of a registry and of a sweeper.

**Main theorem** (`retained`): tasks that have ended are held long enough, and not too long.
-/

namespace Vigil

namespace Task
namespace Registry
variable {r : Registry} {now t : Tick} {P Q : Tick → Prop} {e : Event} {id : String} {x : Record}

/-! ### The ends of tasks -/

/-- All tasks that have ended say when, and `P` is true of that. -/
def Ended (r : Registry) (P : Tick → Prop) : Prop :=
  ∀ id x, r.get? id = some x → x.outcome.isTerminal = true → ∃ t, x.endedAt = some t ∧ P t

theorem Ended.mono (h : r.Ended P) (hPQ : ∀ t, P t → Q t) : r.Ended Q := fun id x hx hend =>
  (h id x hx hend).imp fun t ⟨ht, hP⟩ => ⟨ht, hPQ t hP⟩

theorem Ended.sweep (h : r.Ended P) (now : Tick) :
    (r.sweep now).Ended fun t => P t ∧ now - t ≤ r.retention := by
  intro id x hx hend
  rw [get?_sweep, Option.filter_eq_some_iff] at hx
  obtain ⟨t, ht, hP⟩ := h id x hx.1 hend
  have hage := hx.2
  rw [Record.expired, ht] at hage
  exact ⟨t, ht, hP, by simpa using hage⟩

/-- A start adds no task that has ended. -/
theorem Ended.start (h : (r.sweepIfDue now).Ended P) (id name : String) :
    (r.start id name now).1.Ended P := by
  intro key x hx hend
  rw [get?_start] at hx
  split at hx
  next =>
    cases hx
    cases hend
  next => exact h key x hx hend

/-- A task that is ended ends now. -/
theorem Ended.finish (h : r.Ended P) (hP : P now) (id : String) (outcome : Outcome) :
    (r.finish id outcome now).1.Ended P := by
  intro key x hx hend
  rw [get?_finish] at hx
  split at hx
  next =>
    obtain ⟨y, hy, rfl⟩ := Option.map_eq_some_iff.1 hx
    by_cases hy_end : y.outcome.isTerminal = true
    · rw [if_pos hy_end]
      exact h id y hy hy_end
    · rw [if_neg hy_end]
      exact ⟨now, rfl, hP⟩
  next => exact h key x hx hend

/-! ### The last sweep -/

/-- The last sweep was not in the future, and what is held has ended no longer than the retention
before it. -/
structure UpToDate (now : Tick) (r : Registry) : Prop where
  lastSweep_le : r.lastSweep ≤ now
  ended : r.Ended fun t => t ≤ now ∧ r.lastSweep ≤ t + r.retention

theorem UpToDate.new (retention sweepInterval : Span) (now : Tick) :
    UpToDate now (.new retention sweepInterval now) :=
  ⟨Nat.le_refl _, nofun⟩

theorem UpToDate.later {time : Tick} (h : UpToDate now r) (hle : now ≤ time) : UpToDate time r :=
  ⟨Nat.le_trans h.lastSweep_le hle, h.ended.mono fun _ ht => ⟨Nat.le_trans ht.1 hle, ht.2⟩⟩

theorem UpToDate.sweep (h : UpToDate now r) : UpToDate now (r.sweep now) :=
  ⟨Nat.le_refl _, (h.ended.sweep now).mono fun _ ⟨⟨hle, _⟩, hage⟩ =>
    ⟨hle, Nat.sub_le_iff_le_add'.1 hage⟩⟩

theorem UpToDate.sweepIfDue (h : UpToDate now r) : UpToDate now (r.sweepIfDue now) := by
  rw [Registry.sweepIfDue]
  split
  next => exact h.sweep
  next => exact h

/-- Any use of the registry keeps it, if it comes with the time. -/
theorem UpToDate.after (h : UpToDate e.reading r) : UpToDate e.reading (r.after e) := by
  rw [Registry.after]
  split
  next id name _ => exact ⟨h.sweepIfDue.lastSweep_le, h.sweepIfDue.ended.start id name⟩
  next id outcome _ _ =>
    have hnow : e.reading ≤ e.reading ∧ r.lastSweep ≤ e.reading + r.retention :=
      ⟨Nat.le_refl _, Nat.le_trans h.lastSweep_le (Nat.le_add_right _ _)⟩
    obtain ⟨tasks, heq⟩ : ∃ tasks, (r.finish id outcome e.reading).1 = { r with tasks } := by
      rw [Registry.finish]
      split
      next => exact ⟨_, rfl⟩
      next => split <;> exact ⟨_, rfl⟩
    have hended := h.ended.finish hnow id outcome
    rw [heq] at hended ⊢
    exact ⟨h.lastSweep_le, hended⟩
  next => exact h.sweep
  next => exact h

/-- What ended no longer than the retention ago stays, unless a task is started under its id. -/
theorem kept_after (hx : r.get? id = some x) (hend : x.outcome.isTerminal = true)
    (ht : x.endedAt = some t) (hage : e.reading - t ≤ r.retention) (hs : ¬ e.Starts id) :
    (r.after e).get? id = some x := by
  cases ha : e.attempt? id with
  | some a =>
      rw [get?_after_attempt ha, hx, Option.map_some, if_pos hend]
  | none =>
      rcases get?_after_other (r := r) hs ha with hk | ⟨-, hk⟩
      · rw [hk, hx]
      · have hkept : x.expired r.retention e.reading = false := by
          rw [Record.expired, ht]
          exact decide_eq_false (Nat.not_lt.2 hage)
        rw [hk, hx, Option.filter_some, hkept]
        rfl

/-- What a start leaves ended no longer than the retention and one sweep interval ago. -/
theorem ended_after_start (h : UpToDate now r) (id name : String) :
    (r.start id name now).1.Ended fun t => t ≤ now ∧ now - t ≤ r.retention + r.sweepInterval := by
  refine Ended.start ?_ id name
  rw [sweepIfDue]
  split
  next =>
    exact (h.ended.sweep now).mono fun t hswept =>
      ⟨hswept.1.1, Nat.le_trans hswept.2 (Nat.le_add_right _ _)⟩
  next hdue =>
    -- The last sweep was less than one interval ago, and found nothing older than the retention.
    refine h.ended.mono fun t hend => ⟨hend.1, ?_⟩
    have hnow : now < r.lastSweep + r.sweepInterval :=
      (Nat.sub_lt_iff_lt_add' h.lastSweep_le).1 (Nat.lt_of_not_le hdue)
    rw [Nat.sub_le_iff_le_add', ← Nat.add_assoc]
    exact Nat.le_of_lt (Nat.lt_of_lt_of_le hnow (Nat.add_le_add_right hend.2 _))

end Registry
end Task

namespace Host
namespace Retention
variable {ids : Nat → String} {α : Type} {h h' : Host ids α} {k id : Nat}

/-! ### Sweepers that come and go -/

/-- What happens on a host. -/
inductive Event where
  | host (e : Host.Event)
  /-- A sweeper was started; whether it was already cancelled. -/
  | spawned (time : Tick) (registry id : Nat) (cancelled : Bool)
  | cancelled (id : Nat)
  | others

/-- What is done to a registry. -/
def Event.act (k : Nat) : Event → Task.Act
  | .host e => e.use?.elim .idle fun use => if k = use.1 then use.2.act else .idle
  | .spawned .. | .cancelled _ | .others => .idle

/-- A step of a host, to which and from which sweepers come and go. -/
inductive Step : Host ids α → Event → Host ids α → Prop where
  | host {h h' : Host ids α} {e : Host.Event} (hst : Host.Step h e h') : Step h (.host e) h'
  | spawn {h h' : Host ids α} {k id : Nat} {cancelled : Bool}
      (hs : h.startSweep? k cancelled = some (h', id)) :
      Step h (.spawned h.now k id cancelled) h'
  | cancel (h : Host ids α) (id : Nat) : Step h (.cancelled id) (h.cancelSweep id)
  /-- Monitors are started and stopped, or what else does not matter here. -/
  | others {h h' : Host ids α} (hnow : h'.now = h.now)
      (hregistries : h'.platform.registries = h.platform.registries)
      (hsweeps : h'.sweeps = h.sweeps) : Step h .others h'

variable {e : Event} {es fs gs : List Event}

theorem Step.clock (hst : Step h e h') : h.now ≤ h'.now := by
  cases hst with
  | host hst => exact hst.clock
  | spawn hs =>
      obtain ⟨_, _, -, -, he, -⟩ := startSweep?_cases hs
      exact Nat.le_of_eq he.now.symm
  | cancel => exact Nat.le_refl _
  | others hnow => exact Nat.le_of_eq hnow.symm

/-- What becomes of a registry is told by the event, and it is used with the time of the host. -/
theorem Step.registry (hst : Step h e h') {r : Task.Registry} (hr : h.registryAt? k = some r) :
    h'.registryAt? k = some (r.after ⟨h.now, e.act k⟩) := by
  cases hst with
  | @host _ e hst =>
      rw [hst.registry, hr, Option.map_some, Host.Event.effect, Event.act]
      cases hu : e.use? with
      | none => rfl
      | some use =>
          obtain ⟨j, t, act⟩ := use
          obtain rfl : t = h.now := hst.reading hu
          by_cases hk : k = j
          · simp only [Option.elim_some, if_pos hk]
          · simp only [Option.elim_some, if_neg hk]
            rfl
  | spawn hs =>
      obtain ⟨_, _, -, -, he, -⟩ := startSweep?_cases hs
      rw [registryAt?, he.registries]
      exact hr
  | cancel => exact hr
  | others _ hregistries =>
      rw [registryAt?, hregistries]
      exact hr

/-- A sweeper that nobody cancels goes on. -/
theorem Step.keeps_sweeps {since : Tick} (hst : Step h e h') (he : e ≠ .cancelled id)
    (hsweeps : h.Sweeps id k since) : h'.Sweeps id k since := by
  cases hst with
  | host hst => exact hst.keeps_sweeps hsweeps
  | spawn hs =>
      obtain ⟨s, r, hid, hk, hr, hsweeping, hswept⟩ := hsweeps
      obtain ⟨_, _, -, -, he, -⟩ := startSweep?_cases hs
      refine ⟨s, r, ?_, hk, ?_, he.now ▸ hsweeping, hswept⟩
      · rw [he.sweeps]
        exact (List.getElem?_append_left (List.getElem?_eq_some_iff.1 hid).1).trans hid
      · rw [registryAt?, he.registries]
        exact hr
  | cancel j =>
      obtain ⟨s, r, hid, hk, hr, hkept⟩ := hsweeps
      have hne : j ≠ id := fun heq => he (by rw [heq])
      refine ⟨s, r, ?_, hk, hr, hkept⟩
      exact (List.getElem?_modify_ne _ _ hne).trans hid
  | others hnow hregistries hs =>
      obtain ⟨s, r, hid, hk, hr, hsweeping, hswept⟩ := hsweeps
      refine ⟨s, r, ?_, hk, ?_, hnow ▸ hsweeping, hswept⟩
      · rw [hs]
        exact hid
      · rw [registryAt?, hregistries]
        exact hr

/-- A sweeper that is started sweeps from then on. -/
theorem sweeps_of_startSweep? {r : Task.Registry} (hs : h.startSweep? k false = some (h', id))
    (hr : h.registryAt? k = some r) (hpos : 0 < r.sweepInterval) : h'.Sweeps id k h.now := by
  obtain ⟨r₁, s, hr₁, rfl, he, hk, hsweeper⟩ := startSweep?_cases hs
  cases hr.symm.trans hr₁
  have hsweeping := Task.Sweeping.new (r := r) h.now hpos
  rw [decide_eq_false (Nat.pos_iff_ne_zero.1 hpos), Bool.false_or, if_neg Bool.false_ne_true]
    at hsweeper
  refine ⟨s, r, ?_, hk, ?_, ?_⟩
  · rw [he.sweeps]
    exact List.getElem?_concat_length
  · rw [registryAt?, he.registries]
    exact hr
  · rw [he.now, hsweeper]
    exact ⟨hsweeping, .of_sweeping hsweeping⟩

/-! ### Runs -/

/-- The registry of a number is up to date, and has its settings. -/
def Kept (k : Nat) (retention sweepInterval : Span) (h : Host ids α) : Prop :=
  ∃ r, h.registryAt? k = some r ∧ r.UpToDate h.now ∧ r.retention = retention ∧
    r.sweepInterval = sweepInterval

variable {retention sweepInterval : Span}

theorem Step.kept (hst : Step h e h') (hkept : Kept k retention sweepInterval h) :
    Kept k retention sweepInterval h' := by
  obtain ⟨r, hr, hr_ok, hretention, hinterval⟩ := hkept
  refine ⟨_, hst.registry hr, ?_, (r.retention_after _).trans hretention,
    (r.sweepInterval_after _).trans hinterval⟩
  exact (Task.Registry.UpToDate.after (e := ⟨h.now, e.act k⟩) hr_ok).later hst.clock

/-- A run of a host is such a run, too. -/
theorem run_host {es : List Host.Event} (hrun : Run Host.Step h es h') :
    Run Step h (es.map .host) h' := by
  induction hrun with
  | refl => exact .refl _
  | more hst _ ih => exact .more (.host hst) ih

theorem keeps_sweeps {since : Tick} (hrun : Run Step h es h') (he : .cancelled id ∉ es)
    (hsweeps : h.Sweeps id k since) : h'.Sweeps id k since := by
  induction hrun with
  | refl => exact hsweeps
  | more hst _ ih =>
      rw [List.mem_cons, not_or] at he
      exact ih he.2 (hst.keeps_sweeps (Ne.symm he.1) hsweeps)

/-- A sweeper that was started in a run, and that nobody cancelled since then, goes on. -/
theorem sweeps_of_spawned {time : Tick} (hkept : Kept k retention sweepInterval h)
    (hpos : 0 < sweepInterval) (hrun : Run Step h (fs ++ .spawned time k id false :: gs) h')
    (hgs : .cancelled id ∉ gs) : h'.Sweeps id k time := by
  obtain ⟨h₁, h₂, hbefore, hst, hafter⟩ := hrun.split_at
  obtain ⟨r, hr, -, -, hinterval⟩ := hbefore.preserves (fun hst hI => hst.kept hI) hkept
  cases hst with
  | spawn hs => exact keeps_sweeps hafter hgs (sweeps_of_startSweep? hs hr (hinterval ▸ hpos))

/-- While no sweep is due, no task is held that ended longer ago than the retention and one sweep
interval, from one interval after the sweeper was started. -/
theorem ended_of_sweeps {time : Tick} (hkept : Kept k retention sweepInterval h)
    (hsweeps : h.Sweeps id k time) (hlater : time + sweepInterval ≤ h.now) (hrest : h.Rests k)
    {r : Task.Registry} (hr : h.registryAt? k = some r) :
    r.Ended fun t => t ≤ h.now ∧ h.now - t ≤ retention + sweepInterval := by
  obtain ⟨r₁, hr₁, hr_ok, hretention, hinterval⟩ := hkept
  cases hr.symm.trans hr₁
  intro key x hx hend
  obtain ⟨t, ht, hle, -⟩ := hr_ok.ended key x hx hend
  have hage := hsweeps.age_le (r := r) hrest (hinterval ▸ hlater) hr hx ht
  rw [hretention, hinterval] at hage
  exact ⟨t, ht, hle, hage⟩

/-- **Long enough, and not too long.**  Take any run from where a registry is new.  Wherever it has
come:
* a task that has ended no longer than the retention ago is not dropped, whatever is done next;
* right after the start of a task, all tasks that are held and have ended did so no longer than the
  retention and one sweep interval ago;
* they did so, too, at any time from one interval after a sweeper was started, if it was not
  cancelled since then and no sweep is due;
* and so it is where the clock jumps, over any number of sweeps, and what is due is done then. -/
theorem retained (hnew : h.registryAt? k = some (.new retention sweepInterval h.now))
    (hpos : 0 < sweepInterval) (hrun : Run Step h es h') :
    (∀ e h'' r r', Step h' e h'' → h'.registryAt? k = some r → h''.registryAt? k = some r' →
      (∀ key x t, r.get? key = some x → x.outcome.isTerminal = true → x.endedAt = some t →
        h'.now - t ≤ retention → (∀ name, e.act k ≠ .started key name) →
          r'.get? key = some x) ∧
      (∀ key name, e.act k = .started key name →
        r'.Ended fun t => t ≤ h'.now ∧ h'.now - t ≤ retention + sweepInterval)) ∧
    (∀ fs gs time id, es = fs ++ .spawned time k id false :: gs → .cancelled id ∉ gs →
      (∀ r, time + sweepInterval ≤ h'.now → h'.Rests k → h'.registryAt? k = some r →
        r.Ended fun t => t ≤ h'.now ∧ h'.now - t ≤ retention + sweepInterval) ∧
      ∀ d r, time + sweepInterval ≤ h'.now + d → (h'.jump d).registryAt? k = some r →
        r.Ended fun t => t ≤ h'.now + d ∧ h'.now + d - t ≤ retention + sweepInterval) := by
  have hkept₀ : Kept k retention sweepInterval h := ⟨_, hnew, .new _ _ _, rfl, rfl⟩
  have hkept := hrun.preserves (fun hst hI => hst.kept hI) hkept₀
  refine ⟨fun e h'' r r' hst hr hr' => ?_, fun fs gs time id hes hgs => ?_⟩
  · obtain ⟨r₁, hr₁, hr_ok, hretention, hinterval⟩ := hkept
    cases hr.symm.trans hr₁
    cases hr'.symm.trans (hst.registry hr)
    refine ⟨fun key x t hx hend ht hage hs => ?_, fun key name hs => ?_⟩
    · exact Task.Registry.kept_after hx hend ht (hretention ▸ hage)
        fun ⟨name, hname⟩ => hs name hname
    · have hended := Task.Registry.ended_after_start hr_ok key name
      rw [hretention, hinterval] at hended
      rw [hs]
      exact hended
  · subst hes
    have hsweeps := sweeps_of_spawned hkept₀ hpos hrun hgs
    refine ⟨fun r hlater hrest hr => ended_of_sweeps hkept hsweeps hlater hrest hr,
      fun d r hlater hr => ?_⟩
    obtain ⟨⟨_, hjump, -⟩, hnow⟩ := reaches_jump h' d
    have hkept' := (run_host hjump).preserves (fun hst hI => hst.kept hI) hkept
    have hsweeps' := keeps_sweeps (run_host hjump) (by simp) hsweeps
    have hrest : (h'.jump d).Rests k := by
      obtain ⟨r₁, hr₁, -⟩ := hkept
      exact rests_settle (Option.isSome_iff_exists.2 ⟨r₁, hr₁⟩)
    rw [← hnow] at hlater ⊢
    exact ended_of_sweeps hkept' hsweeps' hlater hrest hr

/-- With a retention of 300 and an interval of 100, a task that has ended is held for 300 whatever
is done, and it is not held any more where the clock jumps from there by 101. -/
theorem retained_jumped :
    let p : Platform := .new (.new []) 0 ⟨0, 0, by decide⟩ 7 "" ""
    let h : Host numbered Unit := .new { p with registries := [.new 300 100 0] }
    ∃ es h' r x, Run Step h es h' ∧ h'.registryAt? 0 = some r ∧ r.get? "a" = some x ∧
      (∀ h'' r', Step h' (.host ⟨.caller, some (0, ⟨300, .swept⟩)⟩) h'' →
        h''.registryAt? 0 = some r' → r'.get? "a" = some x) ∧
      ∀ r', (h'.jump 101).registryAt? 0 = some r' → r'.get? "a" ≠ some x := by
  intro p h
  let x : Task.Record := ⟨"a", "copy", 0, .succeeded, some 0⟩
  let h₁ : Host numbered Unit := { h with sweeps := [⟨0, .new 100 0, false⟩] }
  let start : Task.Registry → Task.Registry × Unit × List Notice := fun r =>
    (r.after ⟨0, .started "a" "copy"⟩, (), [])
  let finish : Task.Registry → Task.Registry × Unit × List Notice := fun r =>
    (r.after ⟨0, .attempted "a" .succeeded true⟩, (), [])
  let h₂ : Host numbered Unit := { h₁ with platform := (h₁.platform.withRegistry 0 () start).1 }
  let h₃ : Host numbered Unit := { h₂ with platform := (h₂.platform.withRegistry 0 () finish).1 }
  have hspawn : Step h (.spawned 0 0 0 false) h₁ := .spawn rfl
  have hstart : Host.Step h₁ _ h₂ := .call h₁ 0 () start (fun _ => .started "a" "copy") fun _ => rfl
  have hfinish : Host.Step h₂ _ h₃ :=
    .call h₂ 0 () finish (fun _ => .attempted "a" .succeeded true) fun _ => rfl
  have hpass : Host.Step h₃ _ (h₃.atTime 300) := .pass h₃ (by decide)
  have hrun : Run Step h _ (h₃.atTime 300) :=
    .more hspawn (.more (.host hstart) (.more (.host hfinish) (.one (.host hpass))))
  have hx : ∀ r, (h₃.atTime 300).registryAt? 0 = some r → r.get? "a" = some x := by
    rintro _ ⟨⟩
    decide
  obtain ⟨r, hr⟩ : ∃ r, (h₃.atTime 300).registryAt? 0 = some r := ⟨_, rfl⟩
  have hnew : h.registryAt? 0 = some (.new 300 100 h.now) := rfl
  have hretained := retained hnew (by decide) hrun
  refine ⟨_, _, r, x, hrun, hr, hx r hr, fun h'' r' hst hr' => ?_, fun r' hr' hheld => ?_⟩
  · exact (hretained.1 _ h'' r r' hst hr hr').1 "a" x 0 (hx r hr) rfl rfl (by decide) nofun
  · have hjump := (hretained.2 [] _ 0 0 rfl (by simp)).2 101 r' (by decide) hr'
    obtain ⟨t, ht, -, hage⟩ := hjump "a" x hheld rfl
    cases ht
    exact absurd hage (by decide)

end Retention
end Host
end Vigil
