import Vigil.Proofs.Task.Run

/-!
# Task — the life of a task

What is true of every run of a registry, in whatever order the critical sections come.

* `Record.Sound`: a record stands under its own id, it says when the task ended exactly if it has
  ended, and it says nothing about the future.
* `Incarnation`: from one start of an id to the next, the first attempt to end the task counts
  and no other does.  The record stays what that attempt made it until a sweep drops it, and a
  record that is pending is not dropped.
* `Record.Origin`: a record has the readings of the calls that started and ended it.  Each is taken
  before the lock, so the end may be the older one (`lifecycle_ended_early`).

**The life of a task** (`lifecycle`) puts them together for all runs of a new registry.
-/

namespace Vigil.Task

/-! ### Sound records -/

/-- What the record under `id` says is in order at `now`. -/
structure Record.Sound (x : Record) (id : String) (now : Tick) : Prop where
  own_id : x.id = id
  ended_iff : x.endedAt.isSome = x.outcome.isTerminal
  started_le : x.startedAt ≤ now
  ended_le : ∀ t, x.endedAt = some t → t ≤ now

namespace Record

theorem Sound.mono {x : Record} {id : String} {now later : Tick} (h : x.Sound id now)
    (hle : now ≤ later) : x.Sound id later :=
  ⟨h.own_id, h.ended_iff, Nat.le_trans h.started_le hle,
    fun t ht => Nat.le_trans (h.ended_le t ht) hle⟩

theorem sound_new (id name : String) {t now : Tick} (ht : t ≤ now) :
    (Record.new id name t).Sound id now :=
  ⟨rfl, rfl, ht, fun _ h => by cases h⟩

theorem Sound.finish {x : Record} {id : String} {now t : Tick} {o : Outcome} (h : x.Sound id now)
    (ho : o.isTerminal = true) (ht : t ≤ now) : (x.finish o t).Sound id now :=
  ⟨h.own_id, ho.symm, h.started_le, fun s hs => by cases hs; exact ht⟩

/-- A pending record never expires. -/
theorem Sound.not_expired {x : Record} {id : String} {now : Tick} (h : x.Sound id now)
    (hp : x.outcome = .pending) (retention : Span) (t : Tick) : x.expired retention t = false := by
  have he : x.endedAt.isSome = false := by rw [h.ended_iff, hp]; rfl
  rw [expired, Option.not_isSome_iff_eq_none.1 (Bool.eq_false_iff.1 he)]

end Record

/-- Every outcome that is attempted is an end. -/
theorem Section.isTerminal {s s' : System} {e : Event} (h : Section s e s') {id : String}
    {o : Outcome} {t : Tick} (ha : e.attempt? id = some (o, t)) : o.isTerminal = true := by
  obtain ⟨-, applied, he⟩ := Event.act_of_attempt? ha
  cases h with
  | start | sweep | track => exact absurd he (by simp)
  | complete _ _ success _ => cases he; cases success <;> rfl
  | cancel => cases he; rfl
  | @enter _ _ op _ _ => cases op <;> exact absurd he (by simp [Tracked.entering])
  | @leave _ _ op _ exit =>
      cases op with
      | running key => cases he; cases exit <;> rfl
      | fresh | finished => exact absurd he (by simp [Tracked.leaving])

/-- All records of a system are sound. -/
def System.Sound (s : System) : Prop := ∀ id x, s.registry.get? id = some x → x.Sound id s.now

theorem System.sound_new (retention sweepInterval : Span) (now : Tick) :
    (System.new retention sweepInterval now).Sound := fun id x h => by
  exact absurd h (by simp [System.new, Registry.new, Registry.get?])

/-- What there is under an id after a step was there before, up to an attempt to end it, unless
it was started by the step. -/
theorem Step.record {s s' : System} {e : Event} (h : Step s e s') {id : String} {x : Record}
    (hx : s'.registry.get? id = some x) :
    (∃ name, e.act = .started id name ∧ x = .new id name e.reading) ∨
    (∃ y o, s.registry.get? id = some y ∧ e.attempt? id = some (o, e.reading) ∧
      y.outcome.isTerminal = false ∧ x = y.finish o e.reading) ∨
    s.registry.get? id = some x :=
  Registry.record_after (h.registry ▸ hx)

theorem Step.sound {s s' : System} {e : Event} (h : Step s e s') (hs : s.Sound) : s'.Sound := by
  intro id x hx
  rcases h.record hx with ⟨name, -, rfl⟩ | ⟨y, o, hy, ha, -, rfl⟩ | hk
  · exact Record.sound_new id name h.read
  · exact ((hs id y hy).mono h.clock).finish (h.run.isTerminal ha) h.read
  · exact (hs id x hk).mono h.clock

/-- What is held under an id was started under it; `since` is what came after the last start. -/
def System.Started (es : List Event) (s : System) : Prop :=
  ∀ id, (s.registry.get? id).isSome = true → ∃ before since t name,
    es = before ++ ⟨t, .started id name⟩ :: since ∧ ∀ e ∈ since, ¬ e.Starts id

theorem Step.started {es : List Event} {s s' : System} {e : Event} (h : s.Started es)
    (hst : Step s e s') : s'.Started (es ++ [e]) := by
  intro id hheld
  by_cases hs : e.Starts id
  · obtain ⟨name, hact⟩ := hs
    exact ⟨es, [], e.reading, name, by rw [← hact], fun _ hf => by cases hf⟩
  · obtain ⟨x, hx⟩ := Option.isSome_iff_exists.1 hheld
    have hbefore : (s.registry.get? id).isSome = true := by
      rcases hst.record hx with ⟨name, hact, -⟩ | ⟨y, -, hy, -⟩ | hk
      · exact absurd ⟨name, hact⟩ hs
      · exact Option.isSome_iff_exists.2 ⟨y, hy⟩
      · exact Option.isSome_iff_exists.2 ⟨x, hk⟩
    obtain ⟨before, since, t, name, rfl, hlast⟩ := h id hbefore
    refine ⟨before, since ++ [e], t, name, by simp, fun f hf => ?_⟩
    rcases List.mem_append.1 hf with hf | hf
    · exact hlast f hf
    · exact List.mem_singleton.1 hf ▸ hs

theorem System.started_new (retention sweepInterval : Span) (now : Tick) :
    (System.new retention sweepInterval now).Started [] := fun id h => by
  exact absurd h (by simp [System.new, Registry.new, Registry.get?])

/-! ### The first end counts -/

/-- The first attempt to end the task under `id`. -/
def firstAttempt? (id : String) (es : List Event) : Option (Outcome × Tick) :=
  es.findSome? (·.attempt? id)

/-- What has become of the task that was started under `id` at `start`, after the events `since`
then in which `id` was not started again. -/
structure Incarnation (id name : String) (start : Tick) (since : List Event) (r : Registry) :
    Prop where
  /-- An attempt counts exactly if it is the first one. -/
  answers : ∀ before e after, since = before ++ e :: after →
    ∀ o applied, e.act = .attempted id o applied → applied = (firstAttempt? id before).isNone
  terminal : ∀ o ended, firstAttempt? id since = some (o, ended) → o.isTerminal = true
  /-- The record is pending as long as there was no attempt, and from then on it is what the first
  one made it, until a sweep finds that this was longer than the retention ago. -/
  record : match firstAttempt? id since with
    | none => r.get? id = some (.new id name start)
    | some (o, ended) => r.get? id = some ((Record.new id name start).finish o ended) ∨
        r.get? id = none ∧ ∃ e ∈ since, e.MaySweep ∧ r.retention < e.reading - ended

namespace Incarnation
variable {id name : String} {start : Tick} {since : List Event} {s s' : System} {e : Event}

theorem of_start (h : Step s e s') (he : e.act = .started id name) :
    Incarnation id name e.reading [] s'.registry where
  answers before f after hf := absurd hf (by simp)
  terminal o ended ho := by cases ho
  record := by
    rw [h.registry]
    exact Registry.get?_after_start he

/-- The next attempt will count exactly if there was none. -/
theorem pending_iff (h : Incarnation id name start since s.registry) :
    ((s.registry.get? id).any fun x => !x.outcome.isTerminal) =
      (firstAttempt? id since).isNone := by
  have hr := h.record
  have ht := h.terminal
  cases hf : firstAttempt? id since with
  | none =>
      rw [hf] at hr
      rw [hr]
      rfl
  | some a =>
      obtain ⟨o, ended⟩ := a
      rw [hf] at hr
      rcases hr with hr | ⟨hr, -⟩
      · rw [hr]
        simp [Record.finish, ht o ended hf]
      · rw [hr]
        rfl

theorem step_answers (h : Incarnation id name start since s.registry) (hst : Step s e s') :
    ∀ before f after, since ++ [e] = before ++ f :: after →
      ∀ o applied, f.act = .attempted id o applied →
        applied = (firstAttempt? id before).isNone := by
  intro before f after hf o applied ha
  rcases List.eq_nil_or_concat after with rfl | ⟨after, g, rfl⟩
  · obtain ⟨rfl, he⟩ := List.append_inj' hf rfl
    cases he
    rw [hst.answer ha, Registry.finish_applied, h.pending_iff]
  · rw [List.concat_eq_append, ← List.cons_append, ← List.append_assoc] at hf
    exact h.answers before f after (List.append_inj' hf rfl).1 o applied ha

theorem firstAttempt?_concat (id : String) (es : List Event) (e : Event) :
    firstAttempt? id (es ++ [e]) = (firstAttempt? id es).or (e.attempt? id) := by
  rw [firstAttempt?, List.findSome?_append]
  cases h : e.attempt? id <;> simp [h, firstAttempt?]

theorem step (h : Incarnation id name start since s.registry) (hst : Step s e s')
    (hs : ¬ e.Starts id) : Incarnation id name start (since ++ [e]) s'.registry where
  answers := h.step_answers hst
  terminal o ended ho := by
    rw [firstAttempt?_concat] at ho
    rcases Option.or_eq_some_iff.1 ho with ho | ⟨-, ho⟩
    · exact h.terminal o ended ho
    · exact hst.run.isTerminal ho
  record := by
    have hr := h.record
    have ht := h.terminal
    rw [firstAttempt?_concat, hst.registry, Registry.retention_after]
    cases hf : firstAttempt? id since with
    | none =>
        rw [hf] at hr
        cases ha : e.attempt? id with
        | none =>
            rcases Registry.get?_after_other (r := s.registry) hs ha with hk | ⟨-, hk⟩
            · exact hk.trans hr
            · rw [hr] at hk
              exact hk
        | some a =>
            refine Or.inl ((Registry.get?_after_attempt ha).trans ?_)
            rw [hr]
            rfl
    | some a =>
        obtain ⟨o, ended⟩ := a
        rw [hf] at hr
        have hfin : ((Record.new id name start).finish o ended).outcome.isTerminal = true :=
          ht o ended hf
        rcases hr with hr | ⟨hr, f, hmem, hf⟩
        · cases ha : e.attempt? id with
          | some a =>
              refine Or.inl ((Registry.get?_after_attempt ha).trans ?_)
              rw [hr, Option.map_some, if_pos hfin]
          | none =>
              rcases Registry.get?_after_other (r := s.registry) hs ha with hk | ⟨hsw, hk⟩
              · exact Or.inl (hk.trans hr)
              · rw [hr] at hk
                cases hexp : ((Record.new id name start).finish o ended).expired
                    s.registry.retention e.reading with
                | false => exact Or.inl (hk.trans (by simp [hexp]))
                | true =>
                    exact Or.inr ⟨hk.trans (by simp [hexp]), e, by simp, hsw,
                      of_decide_eq_true hexp⟩
        · refine Or.inr ⟨?_, f, List.mem_append_left _ hmem, hf⟩
          cases ha : e.attempt? id with
          | some a => rw [Registry.get?_after_attempt ha, hr]; rfl
          | none =>
              rcases Registry.get?_after_other (r := s.registry) hs ha with hk | ⟨-, hk⟩
              · exact hk.trans hr
              · rw [hk, hr]; rfl

/-- It stays one until the id is started again. -/
theorem run (h : Incarnation id name start since s.registry) {es : List Event}
    (hrun : Run Step s es s') (hs : ∀ e ∈ es, ¬ e.Starts id) :
    Incarnation id name start (since ++ es) s'.registry := by
  induction hrun generalizing since with
  | refl => rwa [List.append_nil]
  | more hstep _ ih =>
      rw [List.append_cons]
      exact ih (h.step hstep (hs _ List.mem_cons_self)) fun e he => hs e (List.mem_cons_of_mem _ he)

end Incarnation

/-! ### Where a record comes from -/

/-- How the record under `id` came about in the events `es`: it was made by the last start of its
id, after which came `since`, and ended by the first attempt since, if by any.  It has the readings
of these two, each of which was taken before the lock was: so it ends no earlier than it starts if
the one that ended it has the later reading. -/
structure Record.Origin (x : Record) (id : String) (since es : List Event) : Prop where
  started : ∃ before, es = before ++ ⟨x.startedAt, .started id x.name⟩ :: since
  last : ∀ e ∈ since, ¬ e.Starts id
  ended : ∀ t, x.endedAt = some t → ∃ before after,
    since = before ++ ⟨t, .attempted id x.outcome true⟩ :: after ∧ firstAttempt? id before = none
  in_order : (∀ e ∈ since, e.act = .attempted id x.outcome true → x.startedAt ≤ e.reading) →
    ∀ t, x.endedAt = some t → x.startedAt ≤ t

namespace Incarnation
variable {id name : String} {start : Tick} {since : List Event} {r : Registry}

/-- The attempt that ended the task is the one that counted. -/
theorem exists_first (h : Incarnation id name start since r) {o : Outcome} {ended : Tick}
    (hf : firstAttempt? id since = some (o, ended)) :
    ∃ before after, since = before ++ ⟨ended, .attempted id o true⟩ :: after ∧
      firstAttempt? id before = none := by
  obtain ⟨before, e, after, hsince, ha, hnone⟩ := List.findSome?_eq_some_iff.1 hf
  have hfirst : firstAttempt? id before = none := List.findSome?_eq_none_iff.2 hnone
  obtain ⟨hread, applied, hact⟩ := Event.act_of_attempt? ha
  have happlied := h.answers before e after hsince o applied hact
  rw [hfirst] at happlied
  refine ⟨before, after, ?_, hfirst⟩
  rw [hsince, ← hread, ← show applied = true from happlied, ← hact]

theorem origin (h : Incarnation id name start since r) {before : List Event} {x : Record}
    (hx : r.get? id = some x) (hlast : ∀ e ∈ since, ¬ e.Starts id) :
    x.Origin id since (before ++ ⟨start, .started id name⟩ :: since) := by
  have hr := h.record
  cases hf : firstAttempt? id since with
  | none =>
      rw [hf] at hr
      obtain rfl := Option.some.inj (hx.symm.trans hr)
      exact {
        started := ⟨before, rfl⟩
        last := hlast
        ended := fun _ ht => by cases ht
        in_order := fun _ _ ht => by cases ht }
  | some a =>
      obtain ⟨o, ended⟩ := a
      rw [hf] at hr
      rcases hr with hr | ⟨hr, -⟩
      · obtain rfl := Option.some.inj (hx.symm.trans hr)
        obtain ⟨front, after, hsince, hfirst⟩ := h.exists_first hf
        have hmem : ⟨ended, .attempted id o true⟩ ∈ since :=
          hsince ▸ List.mem_append_right _ List.mem_cons_self
        exact {
          started := ⟨before, rfl⟩
          last := hlast
          ended := fun t ht => by
            obtain rfl : ended = t := Option.some.inj ht
            exact ⟨front, after, hsince, hfirst⟩
          in_order := fun hle t ht => by
            obtain rfl : ended = t := Option.some.inj ht
            exact hle _ hmem rfl }
      · cases hx.symm.trans hr

end Incarnation

/-- A pending record outlives every sweep. -/
theorem get?_sweep_pending {s : System} (hs : s.Sound) {id : String} {x : Record}
    (hx : s.registry.get? id = some x) (hp : x.outcome = .pending) (t : Tick) :
    (s.registry.sweep t).get? id = some x := by
  rw [Registry.get?_sweep, hx]
  simp [(hs id x hx).not_expired hp]

/-- An attempt to end a task neither adds nor drops a record. -/
theorem isSome_finish (r : Registry) (id : String) (o : Outcome) (t : Tick) (key : String) :
    ((r.finish id o t).1.get? key).isSome = (r.get? key).isSome := by
  rw [Registry.get?_finish]
  split
  next h => rw [h, Option.isSome_map]
  next => rfl

/-- **The life of a task.**  After every run of a new registry, with the critical sections in any
order:
* each record is sound, and comes from the last start of its id and from the first attempt to end
  it since; it ends no earlier than it starts, if that attempt did not read the clock before the
  start did;
* since the last start of an id, the first attempt to end the task counted and no other did, and
  the record is what that attempt made it unless a sweep has dropped it;
* an attempt that does not count changes nothing, and no attempt makes a record;
* no sweep drops a pending record. -/
theorem lifecycle {retention sweepInterval : Span} {now : Tick} {es : List Event} {s : System}
    (h : Run Step (.new retention sweepInterval now) es s) :
    (∀ id x, s.registry.get? id = some x → x.Sound id s.now ∧ ∃ since, x.Origin id since es) ∧
    (∀ before since id name t, es = before ++ ⟨t, .started id name⟩ :: since →
      (∀ e ∈ since, ¬ e.Starts id) → Incarnation id name t since s.registry) ∧
    (∀ e s' id o applied, Step s e s' → e.act = .attempted id o applied →
      (applied = false → s'.registry = s.registry) ∧
      ∀ key, (s'.registry.get? key).isSome = (s.registry.get? key).isSome) ∧
    (∀ id x t, s.registry.get? id = some x → x.outcome = .pending →
      (s.registry.sweep t).get? id = some x ∧ (s.registry.sweepIfDue t).get? id = some x) := by
  have hsound : s.Sound := h.preserves (fun hst => hst.sound) (System.sound_new _ _ _)
  have hstarted : s.Started es :=
    h.history (System.started_new _ _ _) fun ih hst => hst.started ih
  have hincarnation : ∀ before since id name t, es = before ++ ⟨t, .started id name⟩ :: since →
      (∀ e ∈ since, ¬ e.Starts id) → Incarnation id name t since s.registry := by
    intro before since id name t hes hlast
    subst hes
    obtain ⟨s₁, s₂, -, hst, hrun⟩ := h.split_at
    exact (Incarnation.of_start hst rfl).run hrun hlast
  refine ⟨fun id x hx => ⟨hsound id x hx, ?_⟩, hincarnation, ?_, ?_⟩
  · obtain ⟨before, since, t, name, rfl, hlast⟩ :=
      hstarted id (Option.isSome_iff_exists.2 ⟨x, hx⟩)
    exact ⟨since, (hincarnation before since id name t rfl hlast).origin hx hlast⟩
  · intro e s' id o applied hst ha
    have hafter : s'.registry = (s.registry.finish id o e.reading).1 := by
      rw [hst.registry, Registry.after, ha]
    refine ⟨fun hno => ?_, fun key => ?_⟩
    · rw [hafter]
      exact Registry.finish_refused ((hst.answer ha).symm.trans hno)
    · rw [hafter]
      exact isSome_finish s.registry id o e.reading key
  · intro id x t hx hp
    have hkeep := get?_sweep_pending hsound hx hp t
    refine ⟨hkeep, ?_⟩
    rcases s.registry.get?_sweepIfDue t id with hk | hk
    · exact hk.trans hx
    · exact hk.trans hkeep

/-- The second end of a task, with a reading that is older than its start, does not count: its
record says when it was ended first. -/
theorem lifecycle_ended_twice :
    ∃ s x since, Run Step (.new 300 60 0) [⟨2, .started "a" "copy"⟩,
        ⟨5, .attempted "a" .succeeded true⟩, ⟨1, .attempted "a" (.cancelled "late") false⟩] s ∧
      s.registry.get? "a" = some x ∧ x.Origin "a" since [⟨2, .started "a" "copy"⟩,
        ⟨5, .attempted "a" .succeeded true⟩, ⟨1, .attempted "a" (.cancelled "late") false⟩] ∧
      x.endedAt = some 5 := by
  let s₁ : System := ⟨((Registry.new 300 60 0).start "a" "copy" 2).1, [], 2⟩
  let s₂ : System := ⟨(s₁.registry.complete "a" true none 5).1, [], 5⟩
  have h₁ : Step (.new 300 60 0) ⟨2, .started "a" "copy"⟩ s₁ :=
    (Section.start _ 2 "a" "copy").step (Nat.zero_le 2) (Nat.le_refl 2)
  have h₂ : Step s₁ ⟨5, .attempted "a" .succeeded true⟩ s₂ :=
    (Section.complete _ 5 "a" true none).step (by decide : 2 ≤ 5) (Nat.le_refl 5)
  have h₃ : Step s₂ ⟨1, .attempted "a" (.cancelled "late") false⟩ _ :=
    (Section.cancel _ 1 "a" "late").step (Nat.le_refl 5) (by decide : 1 ≤ 5)
  have h := Run.more h₁ (.more h₂ (.one h₃))
  have hx : (s₂.registry.cancel "a" "late" 1).1.get? "a" =
      some ⟨"a", "copy", 2, .succeeded, some 5⟩ := rfl
  obtain ⟨-, since, horigin⟩ := (lifecycle h).1 "a" _ hx
  exact ⟨_, _, since, h, hx, horigin, rfl⟩

/-- A task that is ended by a call which read the clock before the call that started it did, but
took the lock after it, has ended before it was started. -/
theorem lifecycle_ended_early :
    ∃ s x, Run Step (.new 300 60 0)
        [⟨2, .started "a" "copy"⟩, ⟨1, .attempted "a" .succeeded true⟩] s ∧
      s.registry.get? "a" = some x ∧ x.endedAt = some 1 ∧ ¬ x.startedAt ≤ 1 := by
  let s₁ : System := ⟨((Registry.new 300 60 0).start "a" "copy" 2).1, [], 2⟩
  have h₁ : Step (.new 300 60 0) ⟨2, .started "a" "copy"⟩ s₁ :=
    (Section.start _ 2 "a" "copy").step (Nat.zero_le 2) (Nat.le_refl 2)
  have h₂ : Step s₁ ⟨1, .attempted "a" .succeeded true⟩ _ :=
    (Section.complete _ 1 "a" true none).step (Nat.le_refl 2) (by decide : 1 ≤ 2)
  exact ⟨_, ⟨"a", "copy", 2, .succeeded, some 1⟩, .more h₁ (.one h₂), rfl, rfl, by decide⟩

end Vigil.Task
