import Vigil.Proofs.Host.Run
import Vigil.Proofs.Task.Sweeps

/-!
# Host — operations that are given up

An operation that runs as a tracked task is given up when it is dropped before it is at its end, and
when it panics.  Both leave it the same way: its task counts as cancelled, with the reason that it
was dropped.  A panic is no exception to that; the task is pending while the hook records it, and no
longer.

* `Dropped`, `dropped_finish`: what becomes of the counts and the orphans of a registry.
* `Tracking`: what is recorded of an operation while nobody else names its task, kept by every step
  (`Tracking.step`) and so by every run.
* `Settled`: a task that has ended is not pending again unless it is started again.

**Main theorem** (`abandoned_cancelled`): an operation that is given up at any time leaves a task
that counts as cancelled and is not an orphan any more.
-/

namespace Vigil

/-! ### A task that was dropped -/

namespace Task
variable {r r' : Registry} {x : Record} {id : String} {now : Tick}

/-- A task that was pending counts as cancelled since it was dropped, and is not an orphan any more;
every other task is as before. -/
structure Dropped (r r' : Registry) (x : Record) (now : Tick) : Prop where
  record : r'.get? x.id = some (x.finish (.cancelled droppedReason) now)
  others : ∀ id, id ≠ x.id → r'.get? id = r.get? id
  orphans : (r.records.filter (·.isOrphaned)).Perm (x :: r'.records.filter (·.isOrphaned))
  cancelled : ∀ t, (r'.snapshot t).cancelled = (r.snapshot t).cancelled + 1

theorem dropped_finish (hx : r.get? x.id = some x) (hp : x.outcome = .pending) (now : Tick) :
    Dropped r (r.finish x.id (.cancelled droppedReason) now).1 x now := by
  have hget := r.get?_finish x.id (.cancelled droppedReason) now
  have hrecord : (r.finish x.id (.cancelled droppedReason) now).1.get? x.id =
      some (x.finish (.cancelled droppedReason) now) := by
    rw [hget, if_pos rfl, hx, Option.map_some, hp]
    rfl
  -- Apart from the one under the id the records are the same.
  have hrest : (r.finish x.id (.cancelled droppedReason) now).1.tasks.erase x.id =
      r.tasks.erase x.id := by
    refine Table.ext fun id => ?_
    rw [Table.get?_erase, Table.get?_erase]
    split
    next => rfl
    next hne => exact (hget id).trans (if_neg hne)
  have hbefore : r.records.Perm _ := Table.values_perm hx
  have hafter : (r.finish x.id (.cancelled droppedReason) now).1.records.Perm _ :=
    Table.values_perm hrecord
  rw [hrest] at hafter
  have horphan : x.isOrphaned = true := decide_eq_true hp
  refine ⟨hrecord, fun id hne => (hget id).trans (if_neg hne), ?_, fun t => ?_⟩
  · refine (hbefore.filter _).trans (List.Perm.trans ?_ ((hafter.filter _).symm.cons x))
    rw [List.filter_cons_of_pos horphan,
      List.filter_cons_of_neg (by simp [Record.isOrphaned, Record.finish])]
  · rw [Registry.snapshot, Registry.snapshot, Snapshot.ofRecords, Snapshot.ofRecords]
    simp only [hbefore.countP_eq, hafter.countP_eq, List.countP_cons, hp, Record.finish]
    rfl

/-- Whatever is recorded under an id has ended. -/
def Settled (r : Registry) (id : String) : Prop :=
  ∀ x, r.get? id = some x → x.outcome.isTerminal = true

/-- It stays so unless the task is started again. -/
theorem Settled.after (h : Settled r id) {e : Event} (hs : ¬ e.Starts id) :
    Settled (r.after e) id := by
  intro x hx
  rcases Registry.record_after hx with ⟨name, he, -⟩ | ⟨y, o, hy, -, hpending, -⟩ | hk
  · exact absurd ⟨name, he⟩ hs
  · rw [h y hy] at hpending
    cases hpending
  · exact h x hk

end Task

namespace Host
variable {ids : Nat → String} {α : Type} {h h₀ h' : Host ids α} {k n : Nat} {name : String}
  {e : Event} {es : List Event}

/-! ### Who names a task -/

/-- A task is started under an id. -/
def Event.Starts (e : Event) (k : Nat) (id : String) : Prop :=
  ∃ use, e.use? = some (k, use) ∧ use.Starts id

/-- A task is started under an id, or is to end. -/
def Event.Names (e : Event) (k : Nat) (id : String) : Prop :=
  ∃ use, e.use? = some (k, use) ∧ (use.Starts id ∨ (use.attempt? id).isSome = true)

/-- What becomes of a registry that may be used. -/
theorem Event.effect_cases (e : Event) (k : Nat) (r : Task.Registry) :
    e.effect k r = r ∨ ∃ use, e.use? = some (k, use) ∧ e.effect k r = r.after use := by
  rw [effect]
  cases hu : e.use? with
  | none => exact Or.inl rfl
  | some use =>
      obtain ⟨j, use⟩ := use
      by_cases hk : k = j
      · subst hk
        exact Or.inr ⟨use, rfl, if_pos rfl⟩
      · exact Or.inl (if_neg hk)

/-- A task that has ended stays so in every run that does not start it again. -/
theorem settled_of_run {id : String} {r : Task.Registry} (hrun : Run Step h es h')
    (hr : h.registryAt? k = some r) (hset : Task.Settled r id) (hs : ∀ e ∈ es, ¬ e.Starts k id) :
    ∃ r', h'.registryAt? k = some r' ∧ Task.Settled r' id := by
  induction hrun generalizing r with
  | refl => exact ⟨r, hr, hset⟩
  | @more _ _ _ e _ hst _ ih =>
      refine ih (hst.registry k ▸ congrArg (Option.map (e.effect k)) hr) ?_
        fun f hf => hs f (List.mem_cons_of_mem _ hf)
      rcases e.effect_cases k r with heq | ⟨use, hu, heq⟩
      · rw [heq]
        exact hset
      · rw [heq]
        exact hset.after fun hstart => hs e List.mem_cons_self ⟨use, hu, hstart⟩

/-! ### What is recorded of an operation -/

/-- An operation under its number, which runs as the task `name` in a registry: its task is not
recorded before it runs for the first time, is pending then, and is over when the operation is. -/
structure Tracking (h : Host ids α) (n k : Nat) (name : String) (op : Operation α) : Prop where
  operation : h.operations[n]? = some op
  registry : op.registry = k
  unfinished : op.task ≠ .finished → op.outcome = none
  stage : op.task = .finished ∨ op.task = .fresh name ∨ op.task = .running (ids n) ∧
    ∃ r start, h.registryAt? k = some r ∧ start ≤ h.now ∧
      r.get? (ids n) = some (.new (ids n) name start)

namespace Tracking
variable {op : Operation α} {r : Task.Registry}

theorem new (h : Host ids α) (k : Nat) (name : String) (delay : Span) (ending : Ending α) :
    (h.addOperation k name delay ending).Tracking h.operations.length k name
      ⟨k, .fresh name, delay, ending, none, none⟩ where
  operation := List.getElem?_concat_length
  registry := rfl
  unfinished _ := rfl
  stage := Or.inr (Or.inl rfl)

/-- The operation runs for the first time, or again. -/
theorem enter (ht : h.Tracking n k name op) (hr : h.registryAt? k = some r)
    (hr' : (h.enter n op).registryAt? k = some (r.after ⟨h.now, op.task.entering (ids n)⟩))
    (hnow : h.now ≤ (h.enter n op).now) : ∃ op', (h.enter n op).Tracking n k name op' := by
  have hop : (h.enter n op).operations[n]? = some { op with
      task := (op.task.enter r (ids n) h.now).1
      wake := if op.delay = 0 then op.wake else some (h.now + op.delay) } := by
    rw [operations_enter, List.getElem?_set_self (List.getElem?_eq_some_iff.1 ht.operation).1,
      ht.registry, hr]
    rfl
  refine ⟨_, hop, ht.registry, ?_, ?_⟩
  · intro hgo
    refine ht.unfinished fun hfin => hgo ?_
    rw [hfin]
    rfl
  · rcases ht.stage with hfin | hfresh | ⟨hgo, r₁, start, hr₁, hle, hx⟩
    · rw [hfin]
      exact Or.inl rfl
    · rw [hfresh] at hr' ⊢
      exact Or.inr (Or.inr ⟨rfl, _, h.now, hr', hnow, Task.Registry.get?_after_start rfl⟩)
    · rw [hgo] at hr' ⊢
      cases hr.symm.trans hr₁
      exact Or.inr (Or.inr ⟨rfl, r, start, hr', Nat.le_trans hle hnow, hx⟩)

/-- The operation is over. -/
theorem leave (ht : h.Tracking n k name op) (hr : h.registryAt? k = some r)
    (exit : Task.Tracked.Exit) (outcome : Outcome α) :
    ∃ op', (h.leave n op exit outcome).Tracking n k name op' := by
  have htask : (op.task.leave r exit h.now).1 = .finished := by
    cases op.task <;> rfl
  have hop : (h.leave n op exit outcome).operations[n]? = some { op with
      task := (op.task.leave r exit h.now).1, wake := none, outcome := some outcome } := by
    rw [operations_leave, List.getElem?_set_self (List.getElem?_eq_some_iff.1 ht.operation).1,
      ht.registry, hr]
    rfl
  exact ⟨_, hop, ht.registry, fun hgo => absurd htask hgo, Or.inl htask⟩

/-- Something else is done, which does not name the task. -/
theorem other (ht : h.Tracking n k name op) (hst : Step h e h')
    (hop : h'.operations[n]? = some op) (hnames : ¬ e.Names k (ids n)) :
    h'.Tracking n k name op where
  operation := hop
  registry := ht.registry
  unfinished := ht.unfinished
  stage := ht.stage.imp_right <| Or.imp_right fun ⟨hgo, r, start, hr, hle, hx⟩ => by
    refine ⟨hgo, e.effect k r, start, ?_, Nat.le_trans hle hst.clock, ?_⟩
    · rw [hst.registry, hr]
      rfl
    · rcases e.effect_cases k r with heq | ⟨use, hu, heq⟩
      · rw [heq, hx]
      · rw [heq]
        refine Task.Registry.get?_after_unnamed (fun hs => hnames ⟨use, hu, Or.inl hs⟩) ?_ hx rfl
        exact Option.not_isSome_iff_eq_none.1 fun ha => hnames ⟨use, hu, Or.inr ha⟩

/-- It stays so as long as nobody else names the task. -/
theorem step (ht : h.Tracking n k name op) (hr : h.registryAt? k = some r) (hst : Step h e h')
    (hnames : e.source ≠ .operation n → ¬ e.Names k (ids n)) :
    ∃ op', h'.Tracking n k name op' := by
  rcases hst.operation ht.operation with ⟨hop, hsource⟩ | ⟨rfl, rfl⟩ | ⟨exit, outcome, rfl, rfl⟩
  · exact ⟨op, ht.other hst hop (hnames hsource)⟩
  · refine ht.enter hr ?_ hst.clock
    rw [hst.registry, hr, ht.registry, Option.map_some, Event.effect_uses hr]
  · exact ht.leave hr exit outcome

theorem run (ht : h.Tracking n k name op) (hr : h.registryAt? k = some r) (hrun : Run Step h es h')
    (hnames : ∀ e ∈ es, e.source ≠ .operation n → ¬ e.Names k (ids n)) :
    ∃ op' r', h'.Tracking n k name op' ∧ h'.registryAt? k = some r' := by
  induction hrun generalizing op r with
  | refl => exact ⟨op, r, ht, hr⟩
  | @more _ _ _ e _ hst _ ih =>
      obtain ⟨op', ht'⟩ := ht.step hr hst (hnames e List.mem_cons_self)
      exact ih ht' (hst.registry k ▸ congrArg (Option.map (e.effect k)) hr)
        fun f hf => hnames f (List.mem_cons_of_mem _ hf)

end Tracking

/-! ### Giving up -/

/-- An operation is given up: it is dropped, or it panics. -/
inductive GivesUp (h : Host ids α) (n : Nat) : Host ids α → Prop where
  | drop : GivesUp h n (h.abortOperation n)
  | panic {op : Operation α} (hop : h.operations[n]? = some op) (hend : op.ending = .panic) :
      GivesUp h n (h.finish n op)

/-- Either way the task is ended as abandoned, after the hook has run in case of a panic. -/
theorem GivesUp.registry {op : Operation α} {r : Task.Registry} (hg : h.GivesUp n h')
    (ht : h.Tracking n k name op) (hr : h.registryAt? k = some r) (hgo : op.task ≠ .finished) :
    h'.registryAt? k = some (op.task.leave r .abandoned h.now).2.1 := by
  have hleave : ∀ {h : Host ids α} (outcome : Outcome α), h.operations[n]? = some op →
      h.registryAt? k = some r →
      (h.leave n op .abandoned outcome).registryAt? k =
        some (op.task.leave r .abandoned h.now).2.1 := fun {h} outcome hop hr => by
    rw [(Step.leave h hop .abandoned outcome).registry, hr, ht.registry, Option.map_some,
      Event.effect_uses hr, Task.Tracked.leave_registry]
  cases hg with
  | drop =>
      rw [abortOperation, ht.operation]
      simp only [ht.unfinished hgo, Option.isSome_none, Bool.false_eq_true, if_false]
      exact hleave .aborted ht.operation hr
  | panic hop hend =>
      cases hop.symm.trans ht.operation
      have hpanic := Elsewhere.panic h operationPanic
      have hr' : (h.panic operationPanic).registryAt? k = some r := by
        rw [registryAt?, hpanic.registries]
        exact hr
      rw [finish, hend, ← hpanic.now]
      exact hleave .panicked ht.operation hr'

/-- **Operations that are given up.**  An operation was handed over to run as a tracked task, and
since then nobody else named its task, whatever else was done.  When it is dropped before it has
run, nothing is recorded.  Once it has run and until it is over its task is pending, and an orphan
in every snapshot and report.  When it is given up then, be it dropped or by a panic, the task
counts as cancelled because it was dropped, and is never an orphan again unless it is started again;
the hook that a panic runs before still finds it pending. -/
theorem abandoned_cancelled {r₀ : Task.Registry} {delay : Span} {ending : Ending α}
    (hr₀ : h₀.registryAt? k = some r₀)
    (hrun : Run Step (h₀.addOperation k name delay ending) es h)
    (hnames : ∀ e ∈ es, e.source ≠ .operation h₀.operations.length →
      ¬ e.Names k (ids h₀.operations.length)) :
    let n := h₀.operations.length
    ∃ op r, h.operations[n]? = some op ∧ h.registryAt? k = some r ∧
      (op.task = .finished ∨
      (op.task = .fresh name ∧ (h.abortOperation n).registryAt? k = some r) ∨
      (op.task = .running (ids n) ∧ ∃ start, start ≤ h.now ∧
        let x : Task.Record := .new (ids n) name start
        r.get? (ids n) = some x ∧ x ∈ r.records.filter (·.isOrphaned) ∧
        (h.panic operationPanic).registryAt? k = some r ∧
        ∀ h', h.GivesUp n h' → ∃ r', h'.registryAt? k = some r' ∧ Task.Dropped r r' x h.now ∧
          ∀ fs h'', Run Step h' fs h'' → (∀ e ∈ fs, ¬ e.Starts k (ids n)) →
            ∃ r'', h''.registryAt? k = some r'' ∧ Task.Settled r'' (ids n))) := by
  intro n
  have hr₁ : (h₀.addOperation k name delay ending).registryAt? k = some r₀ := hr₀
  obtain ⟨op, r, ht, hr⟩ := (Tracking.new h₀ k name delay ending).run hr₁ hrun hnames
  refine ⟨op, r, ht.operation, hr, ?_⟩
  rcases ht.stage with hfin | hfresh | ⟨hgo, r₁, start, hr₁, hle, hx⟩
  · exact Or.inl hfin
  · refine Or.inr (Or.inl ⟨hfresh, ?_⟩)
    have hdrop := (GivesUp.drop (h := h) (n := n)).registry ht hr (by simp [hfresh])
    rw [hdrop, hfresh]
    rfl
  · cases hr.symm.trans hr₁
    have hdropped := Task.dropped_finish (x := .new (ids n) name start) hx rfl h.now
    refine Or.inr (Or.inr ⟨hgo, start, hle, hx, ?_, ?_, fun h' hg => ?_⟩)
    · exact hdropped.orphans.symm.subset List.mem_cons_self
    · rw [registryAt?, (Elsewhere.panic h operationPanic).registries]
      exact hr
    · have hregistry := hg.registry ht hr (by simp [hgo])
      rw [hgo] at hregistry
      refine ⟨_, hregistry, hdropped, fun fs h'' hrun' hstarts => ?_⟩
      refine settled_of_run hrun' hregistry (fun y hy => ?_) hstarts
      cases hdropped.record.symm.trans hy
      rfl

/-- An operation panics when it has waited: its task was pending, and counts as cancelled. -/
theorem abandoned_cancelled_waiting :
    let p : Platform := .new (.new []) 0 ⟨0, 0, by decide⟩ 7 "" ""
    let h₀ : Host numbered Unit := .new (p.addRegistry 300 60)
    let op : Operation Unit := ⟨0, .fresh "job", 5, .panic, none, none⟩
    let h := ((h₀.addOperation 0 "job" 5 .panic).enter 0 op).atTime 5
    ∃ r r', h.registryAt? 0 = some r ∧ (h.wakeOperation 0).registryAt? 0 = some r' ∧
      Task.Dropped r r' (.new (numbered 0) "job" 0) 5 := by
  intro p h₀ op h
  have hrun : Run Step (h₀.addOperation 0 "job" 5 .panic) _ h :=
    .more (.enter _ rfl) (.one (.pass _ (Nat.zero_le 5)))
  have hr₀ : h₀.registryAt? 0 = some (.new 300 60 0) := rfl
  obtain ⟨op, r, hop, hr, hstage⟩ := abandoned_cancelled hr₀ hrun fun e he hsource => by
    rcases List.mem_cons.1 he with rfl | he
    · exact absurd rfl hsource
    · rw [List.mem_singleton.1 he]
      exact fun ⟨_, hu, _⟩ => nomatch hu
  obtain rfl : op = ⟨0, .running (numbered 0), 5, .panic, some 5, none⟩ :=
    Option.some.inj (hop.symm.trans rfl)
  rcases hstage with hfin | ⟨hfresh, -⟩ | ⟨-, start, -, hx, -, -, hgiven⟩
  · cases hfin
  · cases hfresh
  · obtain ⟨r', hr', hdropped, -⟩ := hgiven _ (.panic hop rfl)
    have hstart : r.get? (numbered 0) = some (.new (numbered 0) "job" 0) := by
      cases hr
      decide
    cases hstart.symm.trans hx
    exact ⟨r, r', hr, hr', hdropped⟩

/-- An operation that panics at once is no orphan: its task counts as cancelled. -/
theorem panicked_cancelled :
    let p : Platform := .new (.new []) 0 ⟨0, 0, by decide⟩ 7 "" ""
    let h : Host numbered Unit := (Host.new (p.addRegistry 300 60)).addOperation 0 "job" 0 .panic
    ((h.startOperation 0).operations[0]?.map (·.outcome) = some (some .panicked)) ∧
      ∃ r, (h.startOperation 0).registryAt? 0 = some r ∧
        (r.snapshot 0).orphaned = 0 ∧ (r.snapshot 0).cancelled = 1 ∧
        (r.get? (numbered 0)).map (·.outcome) = some (.cancelled Task.droppedReason) := by
  refine ⟨by decide, _, rfl, ?_, ?_, ?_⟩ <;> decide

end Host
end Vigil
