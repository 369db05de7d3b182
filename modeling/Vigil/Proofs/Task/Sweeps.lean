import Vigil.Proofs.Task.Lifecycle
import Vigil.Task.Snapshot

/-!
# Task — sweeps go unnoticed

A sweep drops records of tasks that have ended, and whoever tries to end a task is told the same
whether it has ended or is not held.  So the tasks that are pending, and what callers are told,
follow from the calls alone: `Call.apply` says what a call makes of the pending tasks, `told` what
the callers are told, and neither knows of records that have ended, of sweeps, or of a retention.

* `Step.pending?`: a step does to the pending tasks what its call says, and a sweep does nothing.
* `pending?_of_run`, `answers_of_run`: so does a run.
* `orphans_snapshot`: a snapshot lists the pending tasks.

**Sweeps go unnoticed** (`sweeps_unnoticed`): two runs with the same calls, whenever and with
whichever settings they sweep.
-/

namespace Vigil.Task

/-! ### Calls -/

/-- A call that names a task, with its reading of the clock. -/
inductive Call where
  | start (id name : String) (now : Tick)
  | finish (id : String) (outcome : Outcome) (now : Tick)

namespace Call

/-- What becomes of the tasks that are pending. -/
def apply (c : Call) (pending : String → Option Record) : String → Option Record :=
  match c with
  | .start key name now => fun id => if id = key then some (.new key name now) else pending id
  | .finish key _ _ => fun id => if id = key then none else pending id

/-- What the caller is told, if it tries to end a task: whether the task is pending. -/
def told? (c : Call) (pending : String → Option Record) : Option Bool :=
  match c with
  | .start .. => none
  | .finish key _ _ => some (pending key).isSome

end Call

/-- What callers are told who try to end tasks one after the other. -/
def told (pending : String → Option Record) : List Call → List Bool
  | [] => []
  | c :: cs => (c.told? pending).toList ++ told (c.apply pending) cs

namespace Event

/-- The call that an event is; a sweep is none. -/
def call? (e : Event) : Option Call :=
  match e.act with
  | .started id name => some (.start id name e.reading)
  | .attempted id outcome _ => some (.finish id outcome e.reading)
  | .swept | .idle => none

/-- What the caller was told, if it tried to end a task. -/
def answer? (e : Event) : Option Bool :=
  match e.act with
  | .attempted _ _ applied => some applied
  | _ => none

end Event

/-- The calls of a run, in order. -/
def calls (es : List Event) : List Call := es.filterMap Event.call?

/-- What the callers were told, in order. -/
def answers (es : List Event) : List Bool := es.filterMap Event.answer?

/-! ### What is pending -/

theorem Record.isOrphaned_eq (x : Record) : x.isOrphaned = !x.outcome.isTerminal := by
  rw [isOrphaned]
  cases x.outcome <;> rfl

namespace Registry

/-- The task under an id, if it is pending. -/
def pending? (r : Registry) (id : String) : Option Record := (r.get? id).filter (·.isOrphaned)

theorem pending?_eq_some {r : Registry} {id : String} {x : Record} :
    r.pending? id = some x ↔ r.get? id = some x ∧ x.outcome = .pending := by
  rw [pending?, Option.filter_eq_some_iff, Record.isOrphaned, decide_eq_true_eq]

/-- A task can be ended exactly while it is pending. -/
theorem finish_applied_eq (r : Registry) (id : String) (outcome : Outcome) (now : Tick) :
    (r.finish id outcome now).2.1 = (r.pending? id).isSome := by
  rw [finish_applied, pending?]
  cases r.get? id with
  | none => rfl
  | some x =>
      rw [Option.any_some, Option.filter_some, Record.isOrphaned_eq]
      cases x.outcome.isTerminal <;> rfl

/-- The pending tasks in a snapshot are those of the table without the others. -/
theorem filter_records (r : Registry) :
    r.records.filter (·.isOrphaned) = (r.tasks.filter fun _ x => x.isOrphaned).values := by
  rw [records, Table.values, Table.values, Table.filter, List.filter_map]
  rfl

/-- A snapshot lists the pending tasks, and depends on nothing else in that. -/
theorem orphans_snapshot {r r' : Registry} (h : ∀ id, r.pending? id = r'.pending? id)
    (now : Tick) :
    (r.snapshot now).orphans = (r'.snapshot now).orphans ∧
      (r.snapshot now).orphaned = (r'.snapshot now).orphaned := by
  have hfilter : r.records.filter (·.isOrphaned) = r'.records.filter (·.isOrphaned) := by
    rw [filter_records, filter_records]
    refine congrArg Table.values (Table.ext fun id => ?_)
    rw [Table.get?_filter, Table.get?_filter]
    exact h id
  have hcount : ∀ q : Registry,
      (q.snapshot now).orphaned = (q.records.filter (·.isOrphaned)).length := fun q =>
    Snapshot.orphaned_ofRecords q.records now
  refine ⟨?_, by rw [hcount, hcount, hfilter]⟩
  rw [snapshot, snapshot, Snapshot.ofRecords, Snapshot.ofRecords, hfilter]

end Registry

/-! ### Steps and runs -/

/-- A sweep drops no pending task. -/
theorem System.Sound.pending?_sweep {s : System} (hs : s.Sound) (t : Tick) (id : String) :
    (s.registry.sweep t).pending? id = s.registry.pending? id := by
  rw [Registry.pending?, Registry.pending?, Registry.get?_sweep]
  cases hx : s.registry.get? id with
  | none => rfl
  | some x =>
      cases ho : x.isOrphaned with
      | false =>
          rw [Option.filter_some, Option.filter_some, ho]
          split
          next => rw [Option.filter_some, ho]
          next => rfl
      | true =>
          have hkept := (hs id x hx).not_expired (of_decide_eq_true ho) s.registry.retention t
          rw [Option.filter_some, hkept]
          rfl

/-- A step does to the pending tasks what its call says. -/
theorem Step.pending? {s s' : System} {e : Event} (h : Step s e s') (hs : s.Sound) :
    s'.registry.pending? = e.call?.elim id Call.apply s.registry.pending? := by
  funext id
  rw [h.registry]
  have hterminal : ∀ {o t}, e.attempt? id = some (o, t) → o.isTerminal = true := h.run.isTerminal
  obtain ⟨t, act⟩ := e
  cases act with
  | started key name =>
      simp only [Event.call?, Option.elim_some, Call.apply]
      by_cases hk : id = key
      · subst hk
        rw [if_pos rfl, Registry.pending?_eq_some]
        exact ⟨Registry.get?_after_start rfl, rfl⟩
      · rw [if_neg hk]
        have hget : (s.registry.after ⟨t, .started key name⟩).get? id =
            (s.registry.sweepIfDue t).get? id :=
          (s.registry.get?_start key name t id).trans (if_neg hk)
        rw [Registry.pending?, hget]
        rcases s.registry.get?_sweepIfDue t id with hsame | hswept
        · rw [hsame]; rfl
        · rw [hswept]; exact hs.pending?_sweep t id
  | attempted key outcome applied =>
      simp only [Event.call?, Option.elim_some, Call.apply]
      have hget := s.registry.get?_finish key outcome t id
      change Option.filter _ ((s.registry.finish key outcome t).1.get? id) = _
      by_cases hk : id = key
      · subst hk
        have ho := hterminal (Event.attempt?_attempted id outcome applied t)
        rw [hget, if_pos rfl, if_pos rfl]
        cases s.registry.get? id with
        | none => rfl
        | some x =>
            rw [Option.map_some]
            split
            next hend => simp [Option.filter, Record.isOrphaned_eq, hend]
            next => simp [Option.filter, Record.isOrphaned_eq, Record.finish, ho]
      · rw [hget, if_neg hk, if_neg hk]
        rfl
  | swept => exact hs.pending?_sweep t id
  | idle => rfl

/-- A caller is told whether the task is pending. -/
theorem Step.answer? {s s' : System} {e : Event} (h : Step s e s') :
    e.answer? = e.call?.bind fun c => c.told? s.registry.pending? := by
  obtain ⟨t, act⟩ := e
  cases act with
  | attempted key outcome applied =>
      rw [Event.answer?, h.answer rfl, Registry.finish_applied_eq]
      rfl
  | started | swept | idle => rfl

section
variable {s s' : System} {es : List Event}

theorem pending?_of_run (h : Run Step s es s') (hs : s.Sound) :
    s'.registry.pending? = (calls es).foldl (fun p c => c.apply p) s.registry.pending? := by
  induction h with
  | refl => rfl
  | @more _ _ _ e es hst _ ih =>
      rw [ih (hst.sound hs), hst.pending? hs, calls, calls, List.filterMap_cons]
      cases e.call? <;> rfl

theorem answers_of_run (h : Run Step s es s') (hs : s.Sound) :
    answers es = told s.registry.pending? (calls es) := by
  induction h with
  | refl => rfl
  | @more _ _ _ e es hst _ ih =>
      have hrest := ih (hst.sound hs)
      rw [hst.pending? hs] at hrest
      rw [answers, calls, List.filterMap_cons, List.filterMap_cons, hst.answer?]
      cases hc : e.call? with
      | none =>
          rw [hc] at hrest
          exact hrest
      | some c =>
          rw [hc] at hrest
          rw [Option.bind_some, told]
          split
          next hnone =>
            rw [hnone]
            exact hrest
          next b hsome =>
            rw [hsome]
            exact congrArg (b :: ·) hrest

end

/-! ### Two runs -/

/-- **Sweeps go unnoticed.**  Take two runs of new registries, each with its own retention and sweep
interval, in which tasks are started and ended by the same calls with the same readings of the
clock, and sweeps come in between at any times, as they are asked for, made by a timer or by starts.
All callers are told the same, and where the runs have come to the same tasks are pending and a
snapshot lists and counts the same orphans.  Every point of a run is the end of a run, so this holds
all along. -/
theorem sweeps_unnoticed {retention retention' sweepInterval sweepInterval' : Span}
    {now now' : Tick} {es es' : List Event} {s s' : System}
    (h : Run Step (.new retention sweepInterval now) es s)
    (h' : Run Step (.new retention' sweepInterval' now') es' s') (hcalls : calls es = calls es') :
    answers es = answers es' ∧
      (∀ id x, x.outcome = .pending →
        (s.registry.get? id = some x ↔ s'.registry.get? id = some x)) ∧
      ∀ t, (s.registry.snapshot t).orphans = (s'.registry.snapshot t).orphans ∧
        (s.registry.snapshot t).orphaned = (s'.registry.snapshot t).orphaned := by
  have hsound := System.sound_new retention sweepInterval now
  have hsound' := System.sound_new retention' sweepInterval' now'
  -- Nothing is pending in a new registry, whatever its settings.
  have hnew : (System.new retention sweepInterval now).registry.pending? =
      (System.new retention' sweepInterval' now').registry.pending? := rfl
  have hpending : s.registry.pending? = s'.registry.pending? := by
    rw [pending?_of_run h hsound, pending?_of_run h' hsound', hcalls, hnew]
  refine ⟨?_, fun id x hx => ?_, Registry.orphans_snapshot fun id => congrFun hpending id⟩
  · rw [answers_of_run h hsound, answers_of_run h' hsound', hcalls, hnew]
  · have hiff := @Registry.pending?_eq_some s.registry id x
    rw [hpending, Registry.pending?_eq_some] at hiff
    simpa only [hx, and_true] using hiff.symm

/-- A task that has ended is dropped by a sweep in one run, and still held in the other when
somebody tries to end it again. -/
theorem sweeps_unnoticed_dropped :
    ∃ s s', Run Step (.new 300 60000 0) [⟨0, .started "a" "copy"⟩,
        ⟨1, .attempted "a" .succeeded true⟩, ⟨400, .swept⟩,
        ⟨500, .attempted "a" (.cancelled "late") false⟩, ⟨600, .started "b" "load"⟩] s ∧
      Run Step (.new 900 60000 0) [⟨0, .started "a" "copy"⟩, ⟨1, .attempted "a" .succeeded true⟩,
        ⟨500, .attempted "a" (.cancelled "late") false⟩, ⟨600, .started "b" "load"⟩] s' ∧
      s.registry.get? "a" = none ∧ (s'.registry.get? "a").isSome = true ∧
      (s.registry.snapshot 700).orphans = (s'.registry.snapshot 700).orphans := by
  let r₁ := ((Registry.new 300 60000 0).start "a" "copy" 0).1
  let r₂ := (r₁.complete "a" true none 1).1
  let r₃ := r₂.sweep 400
  let r₄ := (r₃.cancel "a" "late" 500).1
  let r₅ := (r₄.start "b" "load" 600).1
  have h₁ : Step (.new 300 60000 0) ⟨0, .started "a" "copy"⟩ ⟨r₁, [], 0⟩ :=
    (Section.start _ 0 "a" "copy").step (Nat.le_refl 0) (Nat.le_refl 0)
  have h₂ : Step ⟨r₁, [], 0⟩ ⟨1, .attempted "a" .succeeded true⟩ ⟨r₂, [], 1⟩ :=
    (Section.complete _ 1 "a" true none).step (Nat.zero_le 1) (Nat.le_refl 1)
  have h₃ : Step ⟨r₂, [], 1⟩ ⟨400, .swept⟩ ⟨r₃, [], 400⟩ :=
    (Section.sweep _ 400).step (by decide : 1 ≤ 400) (Nat.le_refl 400)
  have h₄ : Step ⟨r₃, [], 400⟩ ⟨500, .attempted "a" (.cancelled "late") false⟩ ⟨r₄, [], 500⟩ :=
    (Section.cancel _ 500 "a" "late").step (by decide : 400 ≤ 500) (Nat.le_refl 500)
  have h₅ : Step ⟨r₄, [], 500⟩ ⟨600, .started "b" "load"⟩ ⟨r₅, [], 600⟩ :=
    (Section.start _ 600 "b" "load").step (by decide : 500 ≤ 600) (Nat.le_refl 600)
  let q₁ := ((Registry.new 900 60000 0).start "a" "copy" 0).1
  let q₂ := (q₁.complete "a" true none 1).1
  let q₃ := (q₂.cancel "a" "late" 500).1
  let q₄ := (q₃.start "b" "load" 600).1
  have k₁ : Step (.new 900 60000 0) ⟨0, .started "a" "copy"⟩ ⟨q₁, [], 0⟩ :=
    (Section.start _ 0 "a" "copy").step (Nat.le_refl 0) (Nat.le_refl 0)
  have k₂ : Step ⟨q₁, [], 0⟩ ⟨1, .attempted "a" .succeeded true⟩ ⟨q₂, [], 1⟩ :=
    (Section.complete _ 1 "a" true none).step (Nat.zero_le 1) (Nat.le_refl 1)
  have k₃ : Step ⟨q₂, [], 1⟩ ⟨500, .attempted "a" (.cancelled "late") false⟩ ⟨q₃, [], 500⟩ :=
    (Section.cancel _ 500 "a" "late").step (by decide : 1 ≤ 500) (Nat.le_refl 500)
  have k₄ : Step ⟨q₃, [], 500⟩ ⟨600, .started "b" "load"⟩ ⟨q₄, [], 600⟩ :=
    (Section.start _ 600 "b" "load").step (by decide : 500 ≤ 600) (Nat.le_refl 600)
  have h := Run.more h₁ (.more h₂ (.more h₃ (.more h₄ (.one h₅))))
  have k := Run.more k₁ (.more k₂ (.more k₃ (.one k₄)))
  exact ⟨_, _, h, k, by decide, by decide, ((sweeps_unnoticed h k rfl).2.2 700).1⟩

end Vigil.Task
