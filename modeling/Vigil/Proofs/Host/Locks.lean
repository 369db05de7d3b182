import Vigil.Proofs.Host.Abandoned
import Vigil.Proofs.Host.Turns
import Vigil.Session.Tasks

/-!
# Host — the lock of a registry

Threads share a registry behind a lock.  The code that tracks an operation takes it to start the
task and to end it, and gives it back each time; in between the operation itself is polled, without
the lock.  The operation may call the registry as others do, and such a call takes the lock as well.
What runs meanwhile is the registry's own code, but for the writer that statistics are written to:
if that panics, the lock is given back when the call is unwound.

A `Scene` is a host with how far the code of one operation has come (`Stage`), and who holds the
lock (`Holder`).  Others come in between wherever they can.

* `run_startOperation`, `run_wakeOperation`, `run_statisticsPanic`: what a program does by itself is
  a run in which nobody comes in between.
* `Sound`: the registry is in use while somebody holds the lock, and the code of the operation does
  so only at the stages that say it (`Stage.holds`).
* `Underway`: an operation runs that was started as a task, and nobody ended its task since; so the
  task is pending (`Underway.pending`), and the operation holds the lock only within a call of the
  registry (`Underway.holder_cases`).
-/

namespace Vigil

namespace Platform
variable {β : Type} (p : Platform) (u : Option Nat) (k : Nat) (default : β)
  (f : Task.Registry → Task.Registry × β × List Notice)

/-- Whoever uses a registry does not look at who else does. -/
theorem withRegistry_inUse :
    { p with inUse := u }.withRegistry k default f =
      ({ (p.withRegistry k default f).1 with inUse := u }, (p.withRegistry k default f).2) := by
  rw [withRegistry, withRegistry]
  split
  next hnone => rw [hnone]
  next r hr => rw [hr]; rfl

theorem inUse_withRegistry : (p.withRegistry k default f).1.inUse = p.inUse := by
  rw [withRegistry]
  split <;> rfl

end Platform

namespace Host
variable {ids : Nat → String} {α : Type} {h h' : Host ids α} {k n : Nat} {op : Operation α}
  {e : Event} {es : List Event} {id name : String} {t : Tick}

/-! ### Taking and giving back the lock -/

/-- The lock of a registry is taken. -/
def locked (h : Host ids α) (k : Nat) : Host ids α :=
  { h with platform := { h.platform with inUse := some k } }

/-- It is given back. -/
def unlocked (h : Host ids α) : Host ids α :=
  { h with platform := { h.platform with inUse := none } }

/-- A thread panics. -/
def panics (h : Host ids α) (message thread : Option String) : Host ids α :=
  { h with platform := h.platform.panic message thread }

namespace Elsewhere

theorem locked (h : Host ids α) (k : Nat) : h.Elsewhere (h.locked k) := ⟨rfl, rfl, rfl, rfl, rfl⟩

theorem unlocked (h : Host ids α) : h.Elsewhere h.unlocked := ⟨rfl, rfl, rfl, rfl, rfl⟩

theorem panics (h : Host ids α) (message thread : Option String) :
    h.Elsewhere (h.panics message thread) := by
  have hrecords := Platform.Records.recordAll h.platform
    (h.platform.hook.captures h.platform.observers.contains)
    (h.platform.panicFault message thread)
  exact ⟨hrecords.now, hrecords.registries, rfl, rfl, rfl⟩

end Elsewhere

theorem inUse_panics (h : Host ids α) (message thread : Option String) :
    (h.panics message thread).platform.inUse = h.platform.inUse := by
  have hrecords := Platform.Records.recordAll h.platform
    (h.platform.hook.captures h.platform.observers.contains)
    (h.platform.panicFault message thread)
  rw [panics, Platform.panic, hrecords]

theorem unlocked_locked (h : Host ids α) (k : Nat) : (h.locked k).unlocked = h.unlocked := rfl

theorem unlocked_of_free (hfree : h.platform.inUse = none) : h.unlocked = h := by
  rw [unlocked, ← hfree]

theorem enter_locked (h : Host ids α) (k n : Nat) (op : Operation α) :
    (h.locked k).enter n op = (h.enter n op).locked k :=
  congrArg (fun q : Platform × Task.Tracked =>
      ({ h with platform := q.1 } : Host ids α).setOperation n { op with
        task := q.2, wake := if op.delay = 0 then op.wake else some (q.1.now + op.delay) })
    (h.platform.withRegistry_inUse (some k) op.registry op.task (h.entry n op))

theorem leave_locked (h : Host ids α) (k n : Nat) (op : Operation α) (exit : Task.Tracked.Exit)
    (outcome : Outcome α) :
    (h.locked k).leave n op exit outcome = (h.leave n op exit outcome).locked k :=
  congrArg (fun q : Platform × Task.Tracked =>
      ({ h with platform := q.1 } : Host ids α).setOperation n { op with
        task := q.2, wake := none, outcome := some outcome })
    (h.platform.withRegistry_inUse (some k) op.registry op.task (h.departure op exit))

theorem inUse_enter (h : Host ids α) (n : Nat) (op : Operation α) :
    (h.enter n op).platform.inUse = h.platform.inUse := by
  rw [platform_enter, Platform.inUse_withRegistry]

theorem inUse_leave (h : Host ids α) (n : Nat) (op : Operation α) (exit : Task.Tracked.Exit)
    (outcome : Outcome α) :
    (h.leave n op exit outcome).platform.inUse = h.platform.inUse := by
  rw [platform_leave, Platform.inUse_withRegistry]

/-! ### Stages and steps -/

/-- Who holds the lock: the code of the operation, or another thread. -/
inductive Holder where
  | operation
  | other (i : Nat)
  deriving DecidableEq

/-- How far the code that tracks an operation has come. -/
inductive Stage (α : Type) where
  | fresh
  /-- It holds the lock to start the task. -/
  | starting
  /-- The operation runs or waits. -/
  | polled
  /-- The operation calls the registry, and holds the lock. -/
  | calling
  /-- The operation has its result, or is unwound or dropped. -/
  | ended (exit : Task.Tracked.Exit) (outcome : Outcome α)
  /-- It holds the lock to end the task. -/
  | ending (exit : Task.Tracked.Exit) (outcome : Outcome α)
  | finished

namespace Stage

/-- Where it goes when it takes the lock. -/
def next? : Stage α → Option (Stage α)
  | fresh => some starting
  | polled => some calling
  | ended exit outcome => some (ending exit outcome)
  | _ => none

/-- Whether it holds the lock. -/
def holds : Stage α → Bool
  | starting | calling | ending .. => true
  | _ => false

theorem holds_of_next? {st st' : Stage α} (h : st.next? = some st') : st'.holds = true := by
  cases st with
  | fresh | polled | ended => cases h; rfl
  | starting | calling | ending | finished => cases h

end Stage

/-- A host, how far the code of one operation on it has come, and who holds the lock of its
registry. -/
structure Scene (ids : Nat → String) (α : Type) where
  host : Host ids α
  stage : Stage α
  holder : Option Holder

namespace Scene
variable {s s' : Scene ids α}

/-- A step of the code that tracks operation `n`, or of others, on the registry `k`.  What is done
under the lock is one step, up to where it is given back. -/
inductive Step (k n : Nat) : Scene ids α → Event → Scene ids α → Prop where
  | lock (s : Scene ids α) {stage : Stage α} (hfree : s.holder = none)
      (hnext : s.stage.next? = some stage) :
      Step k n s ⟨.others, none⟩ ⟨s.host.locked k, stage, some .operation⟩
  /-- The task is started. -/
  | start (s : Scene ids α) {op : Operation α} (hs : s.stage = .starting)
      (hop : s.host.operations[n]? = some op) :
      Step k n s ⟨.operation n, s.host.uses op.registry fun _ => op.task.entering (ids n)⟩
        ⟨(s.host.enter n op).unlocked, .polled, none⟩
  /-- The operation has called the registry. -/
  | call (s : Scene ids α) {e : Event} {h' : Host ids α} (hs : s.stage = .calling)
      (hst : Host.Step s.host e h') (he : e.source ≠ .operation n) :
      Step k n s e ⟨h'.unlocked, .polled, none⟩
  | resolve (s : Scene ids α) {op : Operation α} (hs : s.stage = .polled)
      (hop : s.host.operations[n]? = some op) (hend : op.ending ≠ .panic) :
      Step k n s ⟨.others, none⟩ { s with stage := .ended op.ending.exit op.ending.outcome }
  | panic (s : Scene ids α) (hs : s.stage = .polled) (message thread : Option String) :
      Step k n s ⟨.others, none⟩
        { s with host := s.host.panics message thread, stage := .ended .abandoned .panicked }
  /-- A call of the registry panics. -/
  | panicCalling (s : Scene ids α) (hs : s.stage = .calling) (message thread : Option String) :
      Step k n s ⟨.others, none⟩
        ⟨(s.host.panics message thread).unlocked, .ended .abandoned .panicked, none⟩
  | drop (s : Scene ids α) (hs : s.stage = .polled) :
      Step k n s ⟨.others, none⟩ { s with stage := .ended .abandoned .aborted }
  /-- The task is ended. -/
  | finish (s : Scene ids α) {op : Operation α} {exit : Task.Tracked.Exit} {outcome : Outcome α}
      (hs : s.stage = .ending exit outcome) (hop : s.host.operations[n]? = some op) :
      Step k n s ⟨.operation n,
          s.host.uses op.registry fun r => op.task.leaving r exit s.host.now⟩
        ⟨(s.host.leave n op exit outcome).unlocked, .finished, none⟩
  | lockOther (s : Scene ids α) (hfree : s.holder = none) (i : Nat) :
      Step k n s ⟨.others, none⟩ { s with host := s.host.locked k, holder := some (.other i) }
  /-- Another thread has done something under the lock. -/
  | callOther (s : Scene ids α) {i : Nat} {e : Event} {h' : Host ids α}
      (hh : s.holder = some (.other i))
      (hst : Host.Step s.host e h') (he : e.source ≠ .operation n) :
      Step k n s e { s with host := h'.unlocked, holder := none }
  /-- Something is done that needs no lock. -/
  | apart (s : Scene ids α) {e : Event} {h' : Host ids α} (hst : Host.Step s.host e h')
      (he : e.source ≠ .operation n) (hk : ∀ use, e.use? ≠ some (k, use))
      (hu : h'.platform.inUse = s.host.platform.inUse) : Step k n s e { s with host := h' }

/-- A step is one of the host, up to the lock. -/
theorem Step.host (hst : Step k n s e s') :
    ∃ h', Host.Step s.host e h' ∧ h'.Elsewhere s'.host := by
  cases hst with
  | lock | lockOther => exact ⟨_, .elsewhere (.locked _ k), .refl _⟩
  | start _ hop => exact ⟨_, .enter _ hop, .unlocked _⟩
  | call _ hst => exact ⟨_, hst, .unlocked _⟩
  | resolve | drop => exact ⟨_, .elsewhere (.refl _), .refl _⟩
  | panic _ message thread => exact ⟨_, .elsewhere (.panics _ message thread), .refl _⟩
  | panicCalling _ message thread =>
      exact ⟨_, .elsewhere (.panics _ message thread), .unlocked _⟩
  | finish _ hop => exact ⟨_, .leave _ hop _ _, .unlocked _⟩
  | callOther _ hst => exact ⟨_, hst, .unlocked _⟩
  | apart hst => exact ⟨_, hst, .refl _⟩

/-! ### What a program does by itself -/

/-- An operation that is at its end is left. -/
theorem run_finish (hfree : h.platform.inUse = none) (hop : h.operations[n]? = some op) :
    ∃ es, Run (Step k n) ⟨h, .polled, none⟩ es ⟨h.finish n op, .finished, none⟩ := by
  have hleave : ∀ {h : Host ids α} (exit : Task.Tracked.Exit) (outcome : Outcome α),
      h.platform.inUse = none → h.operations[n]? = some op →
      ∃ es, Run (Step k n) ⟨h, .ended exit outcome, none⟩ es
        ⟨h.leave n op exit outcome, .finished, none⟩ := fun {h} exit outcome hfree hop => by
    have hfinish := Step.finish (k := k) (n := n)
      ⟨h.locked k, .ending exit outcome, some .operation⟩ rfl hop
    have hfree' := (h.inUse_leave n op exit outcome).trans hfree
    rw [leave_locked, unlocked_locked, unlocked_of_free hfree'] at hfinish
    exact ⟨_, .more (.lock ⟨h, .ended exit outcome, none⟩ rfl rfl) (.one hfinish)⟩
  by_cases hend : op.ending = .panic
  · obtain ⟨es, hrun⟩ := hleave (h := h.panic operationPanic) .abandoned .panicked
      ((h.inUse_panics _ _).trans hfree) hop
    rw [Host.finish, hend]
    exact ⟨_, .more (.panic ⟨h, .polled, none⟩ rfl (some operationPanic) (some mainThread)) hrun⟩
  · obtain ⟨es, hrun⟩ := hleave op.ending.exit op.ending.outcome hfree hop
    have heq : h.finish n op = h.leave n op op.ending.exit op.ending.outcome := by
      rw [Host.finish]
      cases hending : op.ending with
      | value | error => rfl
      | panic => exact absurd hending hend
    rw [heq]
    exact ⟨_, .more (.resolve ⟨h, .polled, none⟩ rfl hop hend) hrun⟩

/-- An operation is started while nobody holds the lock. -/
theorem run_startOperation (hfree : h.platform.inUse = none)
    (hop : h.operations[n]? = some op) (hout : op.outcome = none) :
    ∃ es, Run (Step k n) ⟨h, .fresh, none⟩ es
      ⟨h.startOperation n, if op.delay = 0 then .finished else .polled, none⟩ := by
  have hfree' := (h.inUse_enter n op).trans hfree
  have hstart := Step.start (k := k) (n := n) ⟨h.locked k, .starting, some .operation⟩ rfl hop
  rw [enter_locked, unlocked_locked, unlocked_of_free hfree'] at hstart
  have hentered := Run.more (.lock ⟨h, .fresh, none⟩ rfl rfl) (.one hstart)
  obtain ⟨op', hop', heq⟩ := startOperation_cases hop hout
  rw [heq]
  split
  next =>
    obtain ⟨es, hfinish⟩ := run_finish (k := k) hfree' hop'
    exact ⟨_, hentered.trans hfinish⟩
  next => exact ⟨_, hentered⟩

/-- An operation that waits is woken while nobody holds the lock. -/
theorem run_wakeOperation (hfree : h.platform.inUse = none) (hop : h.operations[n]? = some op) :
    ∃ es, Run (Step k n) ⟨h, .polled, none⟩ es ⟨h.wakeOperation n, .finished, none⟩ := by
  rw [wakeOperation, hop]
  exact run_finish hfree hop

/-- An operation writes the statistics to a writer that panics. -/
theorem run_statisticsPanic (v : Session ids α) (hfree : v.host.platform.inUse = none) :
    ∃ es, Run (Step v.registry n) ⟨v.host, .polled, none⟩ es
      ⟨v.statisticsPanic.host, .ended .abandoned .panicked, none⟩ := by
  have hpanic := Step.panicCalling (k := v.registry) (n := n)
    ⟨v.host.locked v.registry, .calling, some .operation⟩ rfl
    (some Session.writerPanic) (some mainThread)
  have heq : v.statisticsPanic.host = ((v.host.locked v.registry).panics
      (some Session.writerPanic) (some mainThread)).unlocked := by
    rw [unlocked, ← hfree]
    rfl
  rw [heq]
  exact ⟨_, .more (.lock ⟨v.host, .polled, none⟩ rfl rfl) (.one hpanic)⟩

/-! ### Who holds the lock -/

/-- The registry is in use while somebody holds its lock, and the code of the operation does so at
some of its stages. -/
structure Sound (k : Nat) (s : Scene ids α) : Prop where
  used : s.host.platform.inUse = some k ↔ s.holder.isSome = true
  own : s.holder = some .operation ↔ s.stage.holds = true

/-- The task was just started. -/
def started (h : Host ids α) (n : Nat) (op : Operation α) : Scene ids α :=
  ⟨(h.enter n op).unlocked, .polled, none⟩

theorem sound_started (h : Host ids α) (k n : Nat) (op : Operation α) :
    (started h n op).Sound k :=
  ⟨⟨nofun, nofun⟩, ⟨nofun, nofun⟩⟩

namespace Sound

/-- The lock is free. -/
theorem free {h : Host ids α} {stage : Stage α} (hs : stage.holds = false) :
    Sound k ⟨h.unlocked, stage, none⟩ where
  used := ⟨nofun, nofun⟩
  own := by
    rw [hs]
    exact ⟨nofun, nofun⟩

/-- Others hold the lock, or nobody: so it stays when the code of the operation goes on without. -/
theorem goesOn (h : s.Sound k) {h' : Host ids α} {stage : Stage α}
    (hu : h'.platform.inUse = s.host.platform.inUse) (hs : stage.holds = s.stage.holds) :
    Sound k ⟨h', stage, s.holder⟩ where
  used := by
    rw [hu]
    exact h.used
  own := by
    rw [hs]
    exact h.own

theorem step (h : s.Sound k) (hst : Step k n s e s') : s'.Sound k := by
  cases hst with
  | lock hfree hnext =>
      exact ⟨iff_of_true rfl rfl, iff_of_true rfl (Stage.holds_of_next? hnext)⟩
  | start | call | panicCalling | finish => exact .free rfl
  | resolve hs | drop hs => exact h.goesOn rfl (by rw [hs]; rfl)
  | panic hs => exact h.goesOn (inUse_panics _ _ _) (by rw [hs]; rfl)
  | lockOther hfree i =>
      -- The code of the operation did not hold the lock, and does not now.
      have hnot : ¬ s.stage.holds = true := fun hs => by
        rw [h.own.2 hs] at hfree
        cases hfree
      exact ⟨iff_of_true rfl rfl, iff_of_false nofun hnot⟩
  | callOther hh =>
      have hnot : ¬ s.stage.holds = true := fun hs => by
        rw [h.own.2 hs] at hh
        cases hh
      exact .free (Bool.eq_false_iff.2 hnot)
  | apart _ _ _ hu => exact h.goesOn hu rfl

theorem run (h : s.Sound k) (hrun : Run (Step k n) s es s') : s'.Sound k :=
  hrun.preserves (fun hst hs => hs.step hst) h

/-- A report finds the registry busy if somebody holds the lock. -/
theorem statistics_of_held (h : s.Sound k) {r : Task.Registry}
    (hr : s.host.registryAt? k = some r) (hheld : s.holder.isSome = true) :
    s.host.platform.statistics k = Task.Statistics.busy := by
  rw [Platform.statistics, show s.host.platform.registries[k]? = some r from hr]
  exact if_pos (decide_eq_true (h.used.2 hheld))

/-- Otherwise it tells of the tasks. -/
theorem statistics_of_free (h : s.Sound k) {r : Task.Registry}
    (hr : s.host.registryAt? k = some r) (hfree : s.holder = none) :
    s.host.platform.statistics k = Task.Statistics.ofRecords r.records s.host.platform.now := by
  have hnot : ¬ s.host.platform.inUse = some k := fun hu => by
    have hheld := h.used.1 hu
    rw [hfree] at hheld
    cases hheld
  rw [Platform.statistics, show s.host.platform.registries[k]? = some r from hr]
  exact if_neg (mt of_decide_eq_true hnot)

end Sound
end Scene

/-! ### The task of the operation -/

/-- The task under an id is to end. -/
def Event.Ends (e : Event) (k : Nat) (id : String) : Prop :=
  ∃ use, e.use? = some (k, use) ∧ (use.attempt? id).isSome = true

theorem Event.not_ends (hu : e.use? = none) : ¬ e.Ends k id := fun ⟨_, hu', _⟩ =>
  nomatch hu.symm.trans hu'

/-- A task that is pending stays so until somebody ends it.  It is the same unless it is started
again. -/
theorem Step.pending (hst : Step h e h') {r : Task.Registry} (hr : h.registryAt? k = some r)
    (hx : r.get? id = some (.new id name t)) (hends : ¬ e.Ends k id) :
    ∃ r' name' t', h'.registryAt? k = some r' ∧ r'.get? id = some (.new id name' t') ∧
      (¬ e.Starts k id → name' = name ∧ t' = t) := by
  have hr' : h'.registryAt? k = some (e.effect k r) := by
    rw [hst.registry, hr]
    rfl
  rcases e.effect_cases k r with heq | ⟨use, hu, heq⟩
  · rw [heq] at hr'
    exact ⟨r, name, t, hr', hx, fun _ => ⟨rfl, rfl⟩⟩
  · by_cases hs : use.Starts id
    · obtain ⟨name', hs⟩ := hs
      refine ⟨_, name', use.reading, hr', ?_, fun hnot => absurd ⟨use, hu, name', hs⟩ hnot⟩
      rw [heq]
      exact Task.Registry.get?_after_start hs
    · have ha : use.attempt? id = none :=
        Option.not_isSome_iff_eq_none.1 fun ha => hends ⟨use, hu, ha⟩
      refine ⟨_, name, t, hr', ?_, fun _ => ⟨rfl, rfl⟩⟩
      rw [heq]
      exact Task.Registry.get?_after_unnamed hs ha hx rfl

namespace Scene
variable {s s' : Scene ids α}

theorem pending_of_run (hrun : Run (Step k n) s es s') {r : Task.Registry}
    (hr : s.host.registryAt? k = some r) (hx : r.get? id = some (.new id name t))
    (hends : ∀ e ∈ es, ¬ e.Ends k id) :
    ∃ r' name' t', s'.host.registryAt? k = some r' ∧ r'.get? id = some (.new id name' t') ∧
      ((∀ e ∈ es, ¬ e.Starts k id) → name' = name ∧ t' = t) := by
  induction hrun generalizing r name t with
  | refl => exact ⟨r, name, t, hr, hx, fun _ => ⟨rfl, rfl⟩⟩
  | @more _ _ _ e es hst _ ih =>
      obtain ⟨h₁, hhost, he⟩ := hst.host
      obtain ⟨r₁, name₁, t₁, hr₁, hx₁, hsame₁⟩ :=
        hhost.pending hr hx (hends e List.mem_cons_self)
      rw [← he.registryAt?] at hr₁
      obtain ⟨r', name', t', hr', hx', hsame⟩ :=
        ih hr₁ hx₁ fun f hf => hends f (List.mem_cons_of_mem _ hf)
      refine ⟨r', name', t', hr', hx', fun hnot => ?_⟩
      obtain ⟨rfl, rfl⟩ := hsame fun f hf => hnot f (List.mem_cons_of_mem _ hf)
      exact hsame₁ (hnot e List.mem_cons_self)

/-- An operation runs that was started on a host as the task `name`: what was done since are the
events, and nobody ended the task. -/
structure Underway (h : Host ids α) (k n : Nat) (name : String) (es : List Event)
    (s : Scene ids α) :
    Prop where
  run : ∃ op, h.operations[n]? = some op ∧ op.task = .fresh name ∧ op.registry = k ∧
    Run (Step k n) (started h n op) es s
  registry : (h.registryAt? k).isSome = true
  unended : ∀ e ∈ es, ¬ e.Ends k (ids n)
  stage : s.stage = .polled ∨ s.stage = .calling

namespace Underway

theorem sound (hu : Underway h k n name es s) : s.Sound k := by
  obtain ⟨op, -, -, -, hrun⟩ := hu.run
  exact (sound_started h k n op).run hrun

/-- The task is pending, and the one that was started unless somebody started another one. -/
theorem pending (hu : Underway h k n name es s) :
    ∃ r name' t, s.host.registryAt? k = some r ∧
      r.get? (ids n) = some (.new (ids n) name' t) ∧
      ((∀ e ∈ es, ¬ e.Starts k (ids n)) → name' = name ∧ t = h.now) := by
  obtain ⟨op, hop, hfresh, rfl, hrun⟩ := hu.run
  obtain ⟨r, hr⟩ := Option.isSome_iff_exists.1 hu.registry
  have hstarted := (Host.Step.enter h hop).registry op.registry
  rw [hr, Option.map_some, Event.effect_uses hr, hfresh] at hstarted
  exact pending_of_run hrun hstarted (Task.Registry.get?_after_start rfl) hu.unended

/-- While it runs the operation holds the lock only within a call of the registry. -/
theorem holder_cases (hu : Underway h k n name es s) :
    (s.stage = .calling ∨ ∃ i, s.holder = some (.other i)) ∧ s.holder.isSome = true ∨
      s.stage = .polled ∧ s.holder = none := by
  have hown := hu.sound.own
  rcases hu.stage with hs | hs
  · rw [hs] at hown
    cases hh : s.holder with
    | none => exact Or.inr ⟨hs, rfl⟩
    | some t =>
        cases t with
        | other i => exact Or.inl ⟨Or.inr ⟨i, rfl⟩, rfl⟩
        | operation => cases hown.1 hh
  · rw [hs] at hown
    exact Or.inl ⟨Or.inl hs, by rw [hown.2 rfl]; rfl⟩

end Underway
end Scene
end Host
end Vigil
