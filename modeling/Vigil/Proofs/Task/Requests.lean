import Vigil.Proofs.Task.Sweeps

/-!
# Task — requests for different tasks

Callers ask that tasks be started and ended.  What a request does, apart from its own record, is to
sweep if it is a start; and a sweep keeps what is pending, and what was recorded at the same instant.
What a request makes of its own record, and what its caller is told, is decided by what is pending
under its id.  So requests for different tasks do not get in each other's way.

* `Request.make_eq`: the two parts of what a request does.
* `Request.make_comm`: two requests for different tasks can be exchanged.
* `Same.of_filter`: the order of requests matters for one id at a time.

**Requests for different tasks** (`requests_commute`).
-/

namespace Vigil.Task

/-! ### Registries with a record put in place -/

namespace Registry
variable {r r' : Registry} {a b id key : String} {x y : Record} {t : Tick}

/-- The registry with another record under an id, if there is one. -/
def update (r : Registry) (id : String) : Option Record → Registry
  | none => r
  | some x => { r with tasks := r.tasks.insert id x }

theorem get?_update (r : Registry) (id : String) (x : Option Record) (key : String) :
    (r.update id x).get? key = if key = id then x.or (r.get? id) else r.get? key := by
  cases x with
  | none =>
      split
      next h => rw [h, Option.none_or]; rfl
      next => rfl
  | some x =>
      rw [Option.some_or]
      exact r.tasks.get?_insert id key x

/-- Two registries are the same if they hold the same and were swept at the same time. -/
theorem eq_of_get? (hget : ∀ id, r.get? id = r'.get? id) (hswept : r.lastSweep = r'.lastSweep)
    (hretention : r.retention = r'.retention) (hinterval : r.sweepInterval = r'.sweepInterval) :
    r = r' := by
  cases r
  cases r'
  cases hswept
  cases hretention
  cases hinterval
  cases Table.ext hget
  rfl

theorem lastSweep_update (x : Option Record) : (r.update id x).lastSweep = r.lastSweep := by
  cases x <;> rfl

theorem retention_update (x : Option Record) : (r.update id x).retention = r.retention := by
  cases x <;> rfl

theorem sweepInterval_update (x : Option Record) :
    (r.update id x).sweepInterval = r.sweepInterval := by
  cases x <;> rfl

theorem update_comm (hne : a ≠ b) (x y : Option Record) :
    (r.update a x).update b y = (r.update b y).update a x := by
  refine eq_of_get? (fun key => ?_) ?_ ?_ ?_
  · simp only [get?_update]
    by_cases ha : key = a
    · simp [ha, hne]
    · by_cases hb : key = b
      · simp [hb, hne.symm]
      · simp [ha, hb]
  · simp only [lastSweep_update]
  · simp only [retention_update]
  · simp only [sweepInterval_update]

/-! ### Sweeps -/

/-- A sweep leaves alone what has not expired. -/
theorem sweepIfDue_update {x : Option Record}
    (hx : ∀ y, x = some y → y.expired r.retention t = false) :
    (r.update id x).sweepIfDue t = (r.sweepIfDue t).update id x := by
  have hsweep : (r.update id x).sweep t = (r.sweep t).update id x := by
    refine eq_of_get? (fun key => ?_) ?_ ?_ ?_
    · rw [get?_sweep, get?_update, get?_update, get?_sweep, get?_sweep, retention_update]
      by_cases hk : key = id
      · rw [if_pos hk, if_pos hk]
        cases x with
        | none => rfl
        | some y => simp [Option.filter, hx y rfl]
      · rw [if_neg hk, if_neg hk]
    · rw [lastSweep_update]; rfl
    · rw [retention_update]; exact retention_update x
    · rw [sweepInterval_update]; exact sweepInterval_update x
  rw [sweepIfDue, sweepIfDue, lastSweep_update, sweepInterval_update, hsweep]
  split
  next => rfl
  next => rfl

/-! ### What is pending -/

/-- The records of a registry are sound, at some time. -/
def Sound (r : Registry) : Prop := ∃ s : System, s.Sound ∧ s.registry = r

theorem Sound.pending?_sweepIfDue (h : r.Sound) (t : Tick) (id : String) :
    (r.sweepIfDue t).pending? id = r.pending? id := by
  obtain ⟨s, hs, rfl⟩ := h
  rw [sweepIfDue]
  split
  next => exact hs.pending?_sweep t id
  next => rfl

theorem pending?_update (hne : key ≠ id) (x : Option Record) :
    (r.update id x).pending? key = r.pending? key := by
  rw [pending?, get?_update, if_neg hne, pending?]

theorem finish_eq (r : Registry) (id : String) (outcome : Outcome) (now : Tick) :
    (r.finish id outcome now).1 = r.update id ((r.pending? id).map (·.finish outcome now)) := by
  rw [finish, pending?]
  cases r.get? id with
  | none => rfl
  | some x =>
      rw [Option.filter_some, Record.isOrphaned_eq]
      cases h : x.outcome.isTerminal <;> simp [h, update]

end Registry

/-! ### Requests -/

/-- What is asked of a registry about a task. -/
inductive Request where
  | start (id name : String)
  | complete (id : String) (success : Bool) (error : Option String)
  | cancel (id reason : String)

namespace Request
variable {r : Registry} {a b c : Request} {t : Tick} {cs ds : List Request}

/-- The id of the task. -/
def id : Request → String
  | .start id _ => id
  | .complete id _ _ => id
  | .cancel id _ => id

/-- What comes of a request: the registry, and what the caller is told, if anything. -/
def make (c : Request) (r : Registry) (now : Tick) : Registry × Option Bool :=
  match c with
  | .start id name => ((r.start id name now).1, none)
  | .complete id success error =>
    let (r, applied, _) := r.complete id success error now
    (r, some applied)
  | .cancel id reason =>
    let (r, applied, _) := r.cancel id reason now
    (r, some applied)

/-- What a request does before it comes to its own record. -/
def prepare (c : Request) (r : Registry) (now : Tick) : Registry :=
  match c with
  | .start .. => r.sweepIfDue now
  | .complete .. | .cancel .. => r

/-- The record that a request leaves under its id, if it does, by what is pending there. -/
def record? (c : Request) (pending : Option Record) (now : Tick) : Option Record :=
  match c with
  | .start id name => some (.new id name now)
  | .complete _ success error => pending.map (·.finish (.ofCompletion success error) now)
  | .cancel _ reason => pending.map (·.finish (.cancelled reason) now)

/-- What the caller is told, by what is pending under the id. -/
def answer (c : Request) (pending : Option Record) : Option Bool :=
  match c with
  | .start .. => none
  | .complete .. | .cancel .. => some pending.isSome

/-- A request sweeps if it has to and puts its record in place; the record, and what the caller is
told, depend on what is pending alone. -/
theorem make_eq (c : Request) (r : Registry) (t : Tick) :
    c.make r t = ((c.prepare r t).update c.id (c.record? (r.pending? c.id) t),
      c.answer (r.pending? c.id)) := by
  cases c with
  | start id name => rfl
  | complete id success error =>
      have hended := r.finish_eq id (.ofCompletion success error) t
      have htold := r.finish_applied_eq id (.ofCompletion success error) t
      exact Prod.ext hended (congrArg some htold)
  | cancel id reason =>
      have hended := r.finish_eq id (.cancelled reason) t
      have htold := r.finish_applied_eq id (.cancelled reason) t
      exact Prod.ext hended (congrArg some htold)

/-- A request is a step of the registry. -/
theorem sound_make (h : r.Sound) (c : Request) (t : Tick) : (c.make r t).1.Sound := by
  obtain ⟨s, hs, rfl⟩ := h
  have hclock : s.now ≤ max s.now t := Nat.le_max_left ..
  have hread : t ≤ max s.now t := Nat.le_max_right ..
  cases c with
  | start id name => exact ⟨_, ((Section.start _ t id name).step hclock hread).sound hs, rfl⟩
  | complete id success error =>
      exact ⟨_, ((Section.complete _ t id success error).step hclock hread).sound hs, rfl⟩
  | cancel id reason => exact ⟨_, ((Section.cancel _ t id reason).step hclock hread).sound hs, rfl⟩

/-- What a request records has not expired yet. -/
theorem expired_record {c : Request} {pending : Option Record} {x : Record}
    (hx : c.record? pending t = some x) (retention : Span) : x.expired retention t = false := by
  have hended : ∀ {o : Outcome}, pending.map (·.finish o t) = some x →
      x.expired retention t = false := by
    intro o hmap
    obtain ⟨y, -, rfl⟩ := Option.map_eq_some_iff.1 hmap
    simp [Record.expired, Record.finish]
  cases c with
  | start id name =>
      cases hx
      rfl
  | complete => exact hended hx
  | cancel => exact hended hx

theorem pending?_prepare (h : r.Sound) (c : Request) (t : Tick) (key : String) :
    (c.prepare r t).pending? key = r.pending? key := by
  cases c with
  | start => exact h.pending?_sweepIfDue t key
  | complete | cancel => rfl

/-- What is pending under other ids stays. -/
theorem pending?_make (h : r.Sound) {key : String} (hne : key ≠ c.id) (t : Tick) :
    (c.make r t).1.pending? key = r.pending? key := by
  rw [make_eq, Registry.pending?_update hne]
  exact pending?_prepare h c t key

theorem prepare_update (c : Request) {id : String} {x : Option Record}
    (hx : ∀ y, x = some y → y.expired r.retention t = false) :
    c.prepare (r.update id x) t = (c.prepare r t).update id x := by
  cases c with
  | start => exact Registry.sweepIfDue_update hx
  | complete | cancel => rfl

theorem prepare_comm (a b : Request) (r : Registry) (t : Tick) :
    b.prepare (a.prepare r t) t = a.prepare (b.prepare r t) t := by
  cases a <;> cases b <;> rfl

/-- What two requests do, the second one for another task. -/
theorem make_make (h : r.Sound) (hne : b.id ≠ a.id) (t : Tick) :
    (b.make (a.make r t).1 t).1 =
      ((b.prepare (a.prepare r t) t).update a.id (a.record? (r.pending? a.id) t)).update b.id
        (b.record? (r.pending? b.id) t) := by
  rw [make_eq b, pending?_make h hne, make_eq a]
  exact congrArg (Registry.update · b.id _) (prepare_update b fun y hy => expired_record hy _)

/-- Two requests for different tasks can be exchanged. -/
theorem make_comm (h : r.Sound) (hne : a.id ≠ b.id) (t : Tick) :
    (b.make (a.make r t).1 t).1 = (a.make (b.make r t).1 t).1 := by
  rw [make_make h hne.symm, make_make h hne, prepare_comm, Registry.update_comm hne]

/-- What a caller is told does not depend on requests for other tasks. -/
theorem answer_make (h : r.Sound) (hne : b.id ≠ a.id) (t : Tick) :
    (b.make (a.make r t).1 t).2 = (b.make r t).2 := by
  rw [make_eq b, pending?_make h hne, make_eq b r]

/-! ### Requests one after the other -/

/-- What comes of requests that are made one after the other: the registry, and what was told to
whom. -/
def makeAll (now : Tick) : List Request → Registry → Registry × List (Request × Option Bool)
  | [], r => (r, [])
  | c :: cs, r =>
    let (r, answer) := c.make r now
    let (r, answers) := makeAll now cs r
    (r, (c, answer) :: answers)

theorem makeAll_cons (t : Tick) (c : Request) (cs : List Request) (r : Registry) :
    makeAll t (c :: cs) r = ((makeAll t cs (c.make r t).1).1,
      (c, (c.make r t).2) :: (makeAll t cs (c.make r t).1).2) := rfl

end Request

open Request (makeAll)

/-- The same has come of requests: the registry, and what was told about each id in turn. -/
structure Same (p q : Registry × List (Request × Option Bool)) : Prop where
  registry : p.1 = q.1
  told : ∀ id, p.2.filter (·.1.id == id) = q.2.filter (·.1.id == id)

namespace Same
variable {p q s : Registry × List (Request × Option Bool)} {r : Registry} {a c : Request} {t : Tick}
  {cs ds : List Request}

theorem refl (p : Registry × List (Request × Option Bool)) : Same p p := ⟨rfl, fun _ => rfl⟩

theorem trans (h : Same p q) (k : Same q s) : Same p s :=
  ⟨h.registry.trans k.registry, fun id => (h.told id).trans (k.told id)⟩

theorem symm (h : Same p q) : Same q p := ⟨h.registry.symm, fun id => (h.told id).symm⟩

theorem cons (h : Same (makeAll t cs (c.make r t).1) (makeAll t ds (c.make r t).1)) :
    Same (makeAll t (c :: cs) r) (makeAll t (c :: ds) r) where
  registry := h.registry
  told id := by
    rw [Request.makeAll_cons, Request.makeAll_cons, List.filter_cons, List.filter_cons, h.told id]

theorem swap (h : r.Sound) (hne : a.id ≠ c.id) (t : Tick) (cs : List Request) :
    Same (makeAll t (c :: a :: cs) r) (makeAll t (a :: c :: cs) r) where
  registry := congrArg (fun r => (makeAll t cs r).1) (Request.make_comm h hne.symm t)
  told id := by
    simp only [Request.makeAll_cons, Request.make_comm h hne t, Request.answer_make h hne t,
      Request.answer_make h hne.symm t]
    by_cases ha : a.id = id
    · have hc : c.id ≠ id := fun hc => hne (ha.trans hc.symm)
      simp [ha, hc]
    · simp [List.filter_cons, ha]

/-- A request may come before requests for other tasks. -/
theorem front (h : r.Sound) (hne : ∀ c ∈ cs, c.id ≠ a.id) :
    Same (makeAll t (cs ++ a :: ds) r) (makeAll t (a :: (cs ++ ds)) r) := by
  induction cs generalizing r with
  | nil => exact refl _
  | cons c cs ih =>
      have hrest := ih (Request.sound_make h c t) fun d hd => hne d (List.mem_cons_of_mem c hd)
      have hfirst : a.id ≠ c.id := (hne c List.mem_cons_self).symm
      exact (cons hrest).trans (swap h hfirst t (cs ++ ds))

/-- Only the order of the requests for each task matters. -/
theorem of_filter (h : r.Sound)
    (hfilter : ∀ id, cs.filter (·.id == id) = ds.filter (·.id == id)) :
    Same (makeAll t cs r) (makeAll t ds r) := by
  induction cs generalizing r ds with
  | nil =>
      have hnil : ds = [] := List.eq_nil_iff_forall_not_mem.2 fun d hd => by
        have hmem : d ∈ ds.filter (·.id == d.id) := List.mem_filter.2 ⟨hd, beq_self_eq_true _⟩
        rw [← hfilter d.id] at hmem
        cases hmem
      rw [hnil]
      exact refl _
  | cons a cs ih =>
      -- The first request is the first one for its task on the other side too.
      have hown := hfilter a.id
      rw [List.filter_cons, if_pos (beq_self_eq_true a.id)] at hown
      obtain ⟨before, after, rfl, hbefore, -, hafter⟩ := List.filter_eq_cons_iff.1 hown.symm
      have hother : ∀ c ∈ before, c.id ≠ a.id := fun c hc => by simpa using hbefore c hc
      have hrest : ∀ id, cs.filter (·.id == id) = (before ++ after).filter (·.id == id) := by
        intro id
        have hid := hfilter id
        rw [List.filter_append, List.filter_cons, List.filter_cons] at hid
        by_cases ha : a.id = id
        · subst ha
          rw [List.filter_append, List.filter_eq_nil_iff.2 hbefore, hafter]
          rfl
        · rw [if_neg (by simpa using ha), if_neg (by simpa using ha), ← List.filter_append] at hid
          exact hid
      exact (cons (ih (Request.sound_make h a t) hrest)).trans (front h hother).symm

end Same

/-- **Requests for different tasks.**  Take any registry that a run leads to, and any instant.
* Two requests for different tasks made at that instant, of which one may sweep and drop the task
  that the other one is about, leave the same registry in either order, and both callers are told
  the same.
* Requests in two orders that differ in how those for different tasks are interleaved leave the same
  registry, with the same snapshots, and about each task the callers are told the same in turn. -/
theorem requests_commute {retention sweepInterval : Span} {now : Tick} {es : List Event}
    {s : System} (h : Run Step (.new retention sweepInterval now) es s) (t : Tick) :
    let r := s.registry
    (∀ a b : Request, a.id ≠ b.id →
      (b.make (a.make r t).1 t).1 = (a.make (b.make r t).1 t).1 ∧
        (a.make r t).2 = (a.make (b.make r t).1 t).2 ∧
        (b.make (a.make r t).1 t).2 = (b.make r t).2) ∧
    ∀ cs ds : List Request, (∀ id, cs.filter (·.id == id) = ds.filter (·.id == id)) →
      (makeAll t cs r).1 = (makeAll t ds r).1 ∧
        (∀ u, (makeAll t cs r).1.snapshot u = (makeAll t ds r).1.snapshot u) ∧
        ∀ id, (makeAll t cs r).2.filter (·.1.id == id) =
          (makeAll t ds r).2.filter (·.1.id == id) := by
  intro r
  have hsound : r.Sound :=
    ⟨s, h.preserves (fun hst => hst.sound) (System.sound_new _ _ _), rfl⟩
  refine ⟨fun a b hne => ?_, fun cs ds hfilter => ?_⟩
  · exact ⟨Request.make_comm hsound hne t, (Request.answer_make hsound hne t).symm,
      Request.answer_make hsound hne.symm t⟩
  · have hsame := Same.of_filter (t := t) hsound hfilter
    exact ⟨hsame.registry, fun u => by rw [hsame.registry], hsame.told⟩

/-- A start sweeps, and drops the task that the other request is about. -/
theorem requests_commute_dropped :
    ∃ s, Run Step (.new 3 5 0) [⟨1, .started "b" "load"⟩, ⟨2, .attempted "b" .succeeded true⟩] s ∧
      let a : Request := .start "a" "save"
      let b : Request := .cancel "b" "late"
      (s.registry.get? "b").isSome = true ∧ (a.make s.registry 10).1.get? "b" = none ∧
        (b.make (a.make s.registry 10).1 10).1 = (a.make (b.make s.registry 10).1 10).1 ∧
        (makeAll 10 [a, b, b] s.registry).1 = (makeAll 10 [b, a, b] s.registry).1 := by
  let s₁ : System := ⟨((Registry.new 3 5 0).start "b" "load" 1).1, [], 1⟩
  have h₁ : Step (.new 3 5 0) ⟨1, .started "b" "load"⟩ s₁ :=
    (Section.start _ 1 "b" "load").step (Nat.zero_le 1) (Nat.le_refl 1)
  have h₂ : Step s₁ ⟨2, .attempted "b" .succeeded true⟩ _ :=
    (Section.complete _ 2 "b" true none).step (by decide : 1 ≤ 2) (Nat.le_refl 2)
  have hrun := Run.more h₁ (.one h₂)
  obtain ⟨htwo, hall⟩ := requests_commute hrun 10
  refine ⟨_, hrun, by decide, by decide, (htwo _ _ (by decide)).1, (hall _ _ fun id => ?_).1⟩
  by_cases ha : "a" = id
  · have hb : "b" ≠ id := fun hb => absurd (hb.trans ha.symm) (by decide)
    simp [Request.id, ha, hb]
  · simp [List.filter_cons, Request.id, ha]

end Vigil.Task
