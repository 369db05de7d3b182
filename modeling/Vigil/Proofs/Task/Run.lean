import Vigil.Proofs.Run
import Vigil.Task.Tracked

/-!
# Task — runs of a registry

The registry as its callers share it.  Each call reads the clock and then, in a critical section
of its own, does one thing to the registry.  A `Step` is one such section: other callers may have
had theirs between the reading and it, so a reading can be older than those of the sections before.

`Step.registry` says that what becomes of the registry is told by the event alone, and
`get?_after_attempt`, `get?_after_other` what becomes of the record under an id; nothing below
looks into a section again.
-/

namespace Vigil.Task

/-- What a critical section did. -/
inductive Act where
  /-- A task was started. -/
  | started (id name : String)
  /-- A task was to end; whether that counted. -/
  | attempted (id : String) (outcome : Outcome) (applied : Bool)
  /-- The tasks that ended long ago were dropped. -/
  | swept
  /-- The registry was left alone. -/
  | idle

/-- A critical section: what it did, with which reading of the clock. -/
structure Event where
  reading : Tick
  act : Act

/-- The registry, the operations that run as tracked tasks, and the clock. -/
structure System where
  registry : Registry
  operations : List Tracked
  now : Tick

/-- A new registry without operations. -/
def System.new (retention sweepInterval : Span) (now : Tick) : System :=
  ⟨.new retention sweepInterval now, [], now⟩

namespace Tracked

/-- What is done when an operation is about to run, with `id` drawn for it. -/
def entering (id : String) : Tracked → Act
  | .fresh name => .started id name
  | _ => .idle

/-- What is done when an operation is over. -/
def leaving (r : Registry) (exit : Exit) (now : Tick) : Tracked → Act
  | .running id => .attempted id exit.outcome (r.finish id exit.outcome now).2.1
  | _ => .idle

end Tracked

/-- A critical section with the reading `t`. -/
inductive Section : System → Event → System → Prop where
  | start (s : System) (t : Tick) (id name : String) :
      Section s ⟨t, .started id name⟩ { s with registry := (s.registry.start id name t).1 }
  | complete (s : System) (t : Tick) (id : String) (success : Bool) (error : Option String) :
      Section s ⟨t, .attempted id (.ofCompletion success error)
          (s.registry.complete id success error t).2.1⟩
        { s with registry := (s.registry.complete id success error t).1 }
  | cancel (s : System) (t : Tick) (id reason : String) :
      Section s ⟨t, .attempted id (.cancelled reason) (s.registry.cancel id reason t).2.1⟩
        { s with registry := (s.registry.cancel id reason t).1 }
  | sweep (s : System) (t : Tick) :
      Section s ⟨t, .swept⟩ { s with registry := s.registry.sweep t }
  /-- An operation is handed over to run as a tracked task. -/
  | track (s : System) (t : Tick) (name : String) :
      Section s ⟨t, .idle⟩ { s with operations := s.operations ++ [.fresh name] }
  /-- An operation is about to run, for the first time or again. -/
  | enter (s : System) (t : Tick) {i : Nat} {op : Tracked} (h : s.operations[i]? = some op)
      (id : String) :
      Section s ⟨t, op.entering id⟩ { s with
        registry := (op.enter s.registry id t).2.1
        operations := s.operations.set i (op.enter s.registry id t).1 }
  /-- An operation has its result, or is abandoned. -/
  | leave (s : System) (t : Tick) {i : Nat} {op : Tracked} (h : s.operations[i]? = some op)
      (exit : Tracked.Exit) :
      Section s ⟨t, op.leaving s.registry exit t⟩ { s with
        registry := (op.leave s.registry exit t).2.1
        operations := s.operations.set i (op.leave s.registry exit t).1 }

/-- A critical section, on a clock that does not run back and was read before. -/
structure Step (s : System) (e : Event) (s' : System) : Prop where
  clock : s.now ≤ s'.now
  read : e.reading ≤ s'.now
  run : Section { s with now := s'.now } e s'

/-- A section makes a step at any time `now` after the last one and after its own reading. -/
theorem Section.step {s s' : System} {e : Event} {now : Tick}
    (h : Section { s with now } e s') (clock : s.now ≤ now) (read : e.reading ≤ now) :
    Step s e s' := by
  have hnow : s'.now = now := by cases h <;> rfl
  subst hnow
  exact ⟨clock, read, h⟩

/-! ### What a section does to the registry -/

/-- The registry after an event. -/
def Registry.after (r : Registry) (e : Event) : Registry :=
  match e.act with
  | .started id name => (r.start id name e.reading).1
  | .attempted id outcome _ => (r.finish id outcome e.reading).1
  | .swept => r.sweep e.reading
  | .idle => r

namespace Tracked

theorem enter_registry (op : Tracked) (r : Registry) (id : String) (t : Tick) :
    (op.enter r id t).2.1 = r.after ⟨t, op.entering id⟩ := by
  cases op <;> rfl

theorem leave_registry (op : Tracked) (r : Registry) (exit : Exit) (t : Tick) :
    (op.leave r exit t).2.1 = r.after ⟨t, op.leaving r exit t⟩ := by
  cases op <;> rfl

end Tracked

theorem Section.registry {s s' : System} {e : Event} (h : Section s e s') :
    s'.registry = s.registry.after e := by
  cases h with
  | start | complete | cancel | sweep | track => rfl
  | enter => exact Tracked.enter_registry ..
  | leave => exact Tracked.leave_registry ..

/-- What a caller is told is what the registry says of the attempt. -/
theorem Section.answer {s s' : System} {e : Event} (h : Section s e s') {id : String}
    {outcome : Outcome} {applied : Bool} (he : e.act = .attempted id outcome applied) :
    applied = (s.registry.finish id outcome e.reading).2.1 := by
  cases h with
  | start | sweep | track => exact absurd he (by simp)
  | complete | cancel => cases he; rfl
  | @enter _ _ op _ _ => cases op <;> exact absurd he (by simp [Tracked.entering])
  | @leave _ _ op _ _ =>
      cases op with
      | running key => cases he; rfl
      | fresh | finished => exact absurd he (by simp [Tracked.leaving])

theorem Step.registry {s s' : System} {e : Event} (h : Step s e s') :
    s'.registry = s.registry.after e :=
  h.run.registry

theorem Step.answer {s s' : System} {e : Event} (h : Step s e s') {id : String}
    {outcome : Outcome} {applied : Bool} (he : e.act = .attempted id outcome applied) :
    applied = (s.registry.finish id outcome e.reading).2.1 :=
  h.run.answer he

/-! ### What an event does to the record under an id -/

namespace Event

/-- A task is started under `id`. -/
def Starts (e : Event) (id : String) : Prop := ∃ name, e.act = .started id name

/-- The end that the task under `id` was to come to, and when. -/
def attempt? (id : String) (e : Event) : Option (Outcome × Tick) :=
  match e.act with
  | .attempted key outcome _ => if key = id then some (outcome, e.reading) else none
  | _ => none

/-- The section may drop tasks: it was a sweep, or a start, which sweeps by itself at times. -/
def MaySweep (e : Event) : Prop :=
  match e.act with
  | .swept | .started .. => True
  | _ => False

theorem attempt?_attempted (id : String) (outcome : Outcome) (applied : Bool) (t : Tick) :
    attempt? id ⟨t, .attempted id outcome applied⟩ = some (outcome, t) :=
  if_pos rfl

/-- An event at which the task under `id` was to end. -/
theorem act_of_attempt? {e : Event} {id : String} {o : Outcome} {t : Tick}
    (h : e.attempt? id = some (o, t)) :
    e.reading = t ∧ ∃ applied, e.act = .attempted id o applied := by
  obtain ⟨reading, act⟩ := e
  cases act with
  | attempted key outcome applied =>
      simp only [attempt?] at h
      split at h
      next hk => cases h; exact ⟨rfl, applied, by rw [hk]⟩
      next => cases h
  | started | swept | idle => cases h

end Event

namespace Registry

/-- The settings of a registry stay. -/
theorem settings_after (r : Registry) (e : Event) :
    ∃ tasks lastSweep, r.after e = { r with tasks, lastSweep } := by
  rw [after]
  split
  next => rw [start, sweepIfDue]; split <;> exact ⟨_, _, rfl⟩
  next =>
    rw [finish]
    split
    next => exact ⟨_, _, rfl⟩
    next => split <;> exact ⟨_, _, rfl⟩
  next => exact ⟨_, _, rfl⟩
  next => exact ⟨_, _, rfl⟩

theorem retention_after (r : Registry) (e : Event) : (r.after e).retention = r.retention := by
  obtain ⟨_, _, h⟩ := r.settings_after e
  rw [h]

theorem sweepInterval_after (r : Registry) (e : Event) :
    (r.after e).sweepInterval = r.sweepInterval := by
  obtain ⟨_, _, h⟩ := r.settings_after e
  rw [h]

/-- A start leaves a pending record under its id. -/
theorem get?_after_start {r : Registry} {e : Event} {id name : String}
    (h : e.act = .started id name) : (r.after e).get? id = some (.new id name e.reading) := by
  rw [after, h]
  exact (r.get?_start id name e.reading id).trans (if_pos rfl)

/-- An attempt ends the record if it is pending. -/
theorem get?_after_attempt {r : Registry} {e : Event} {id : String} {o : Outcome} {t : Tick}
    (h : e.attempt? id = some (o, t)) :
    (r.after e).get? id =
      (r.get? id).map fun x => if x.outcome.isTerminal then x else x.finish o t := by
  obtain ⟨rfl, applied, he⟩ := Event.act_of_attempt? h
  rw [after, he]
  exact (r.get?_finish id o e.reading id).trans (if_pos rfl)

/-- Any other event keeps the record, unless it is a sweep and the record has expired. -/
theorem get?_after_other {r : Registry} {e : Event} {id : String} (hs : ¬ e.Starts id)
    (ha : e.attempt? id = none) :
    (r.after e).get? id = r.get? id ∨
      e.MaySweep ∧ (r.after e).get? id =
        (r.get? id).filter fun x => !x.expired r.retention e.reading := by
  obtain ⟨t, act⟩ := e
  cases act with
  | started key name =>
      have hne : id ≠ key := fun h => hs ⟨name, by rw [h]⟩
      rw [show r.after ⟨t, .started key name⟩ = (r.start key name t).1 from rfl, get?_start,
        if_neg hne]
      refine (r.get?_sweepIfDue t id).imp (fun h => h) fun h => ⟨trivial, ?_⟩
      exact h.trans (r.get?_sweep t id)
  | attempted key outcome applied =>
      have hne : id ≠ key := fun h => by
        subst h
        rw [Event.attempt?_attempted] at ha
        cases ha
      exact Or.inl ((r.get?_finish key outcome t id).trans (if_neg hne))
  | swept => exact Or.inr ⟨trivial, r.get?_sweep t id⟩
  | idle => exact Or.inl rfl

/-- What there is under an id after an event was there before, up to an attempt to end it, unless
it was started by the event. -/
theorem record_after {r : Registry} {e : Event} {id : String} {x : Record}
    (hx : (r.after e).get? id = some x) :
    (∃ name, e.act = .started id name ∧ x = .new id name e.reading) ∨
    (∃ y o, r.get? id = some y ∧ e.attempt? id = some (o, e.reading) ∧
      y.outcome.isTerminal = false ∧ x = y.finish o e.reading) ∨
    r.get? id = some x := by
  by_cases hs : e.Starts id
  · obtain ⟨name, hs⟩ := hs
    rw [get?_after_start hs] at hx
    exact Or.inl ⟨name, hs, (Option.some.inj hx).symm⟩
  · cases ha : e.attempt? id with
    | some a =>
        obtain ⟨o, t⟩ := a
        obtain ⟨rfl, -⟩ := Event.act_of_attempt? ha
        rw [get?_after_attempt ha] at hx
        obtain ⟨y, hy, rfl⟩ := Option.map_eq_some_iff.1 hx
        cases hend : y.outcome.isTerminal with
        | true => exact Or.inr (Or.inr (by simpa using hy))
        | false => exact Or.inr (Or.inl ⟨y, o, hy, rfl, hend, by simp⟩)
    | none =>
        rcases get?_after_other (r := r) hs ha with hk | ⟨-, hk⟩
        · exact Or.inr (Or.inr (hk ▸ hx))
        · rw [hk] at hx
          exact Or.inr (Or.inr (Option.eq_some_of_filter_eq_some hx))

/-- A record that says nothing of an end stays as long as its id is not named. -/
theorem get?_after_unnamed {r : Registry} {e : Event} {id : String} {x : Record}
    (hs : ¬ e.Starts id) (ha : e.attempt? id = none) (hx : r.get? id = some x)
    (he : x.endedAt = none) : (r.after e).get? id = some x := by
  rcases get?_after_other (r := r) hs ha with hk | ⟨-, hk⟩
  · exact hk.trans hx
  · rw [hk, hx, Option.filter_some, Record.expired, he]
    rfl

end Registry
end Vigil.Task
