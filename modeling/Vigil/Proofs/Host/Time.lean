import Vigil.Proofs.Host.Run

/-!
# Host — the passage of time

Whatever a host does by itself, at one instant or while time passes, is a run of steps that no
caller makes (`Reaches`).

* `settle`, `sleep`, `jump` (`reaches_settle`, `reaches_sleep`, `reaches_jump`): what they come to.
* `Rests`, `rests_settle`: a host that has settled leaves no sweep of a registry due.
* `Sweeps.age_le`: how long ago tasks can have ended that are held then.
-/

namespace Vigil.Host
variable {ids : Nat → String} {α : Type} {h h₁ h' : Host ids α} {k id : Nat}

namespace Source

/-- Something that is not asked for by a caller. -/
def Unasked : Source → Prop
  | .caller => False
  | _ => True

/-- Something that is done without a caller, and takes no time. -/
def Works : Source → Prop
  | .caller | .clock => False
  | _ => True

theorem Works.unasked {s : Source} (h : s.Works) : s.Unasked := by
  cases s with
  | caller => exact h
  | operation | sweeper | monitor | clock | others => trivial

end Source

/-- A run leads there in which everything is done by sources of one kind. -/
def Reaches (P : Source → Prop) (h h' : Host ids α) : Prop :=
  ∃ es, Run Step h es h' ∧ ∀ e ∈ es, P e.source

namespace Reaches
variable {P Q : Source → Prop}

theorem refl (h : Host ids α) : h.Reaches P h := ⟨[], .refl h, fun _ he => nomatch he⟩

theorem one {e : Event} (hst : Step h e h') (he : P e.source) : h.Reaches P h' :=
  ⟨[e], .one hst, fun _ hmem => List.mem_singleton.1 hmem ▸ he⟩

theorem trans (h₀ : h.Reaches P h₁) (ht : h₁.Reaches P h') : h.Reaches P h' := by
  obtain ⟨es, hrun, hall⟩ := h₀
  obtain ⟨fs, hrun', hall'⟩ := ht
  exact ⟨es ++ fs, hrun.trans hrun', fun e he => (List.mem_append.1 he).elim (hall e) (hall' e)⟩

theorem mono (hPQ : ∀ s, P s → Q s) (h₀ : h.Reaches P h') : h.Reaches Q h' := by
  obtain ⟨es, hrun, hall⟩ := h₀
  exact ⟨es, hrun, fun e he => hPQ _ (hall e he)⟩

/-- What each step of the kind keeps is kept. -/
theorem keeps {I : Host ids α → Prop} (h₀ : h.Reaches P h')
    (hstep : ∀ {h e h'}, Step h e h' → P e.source → I h → I h') (hI : I h) : I h' := by
  obtain ⟨es, hrun, hall⟩ := h₀
  induction hrun with
  | refl => exact hI
  | more hst _ ih =>
      exact ih (hstep hst (hall _ List.mem_cons_self) hI)
        fun e he => hall e (List.mem_cons_of_mem _ he)

theorem elsewhere (he : h.Elsewhere h') : h.Reaches Source.Works h' := one (.elsewhere he) trivial

theorem foldl {β : Type} {f : Host ids α → β → Host ids α}
    (hf : ∀ (h : Host ids α) b, h.Reaches P (f h b))
    (bs : List β) (h : Host ids α) : h.Reaches P (bs.foldl f h) := by
  induction bs generalizing h with
  | nil => exact refl h
  | cons b bs ih => exact (hf h b).trans (ih _)

/-- Work takes no time. -/
theorem now (h₀ : h.Reaches Source.Works h') : h'.now = h.now := by
  refine h₀.keeps (I := fun h' => h'.now = h.now) (fun hst hs hnow => ?_) rfl
  rcases hst.now_cases with heq | ⟨rfl, -⟩
  · exact heq.trans hnow
  · exact hs.elim

end Reaches

/-! ### Work -/

theorem reaches_finish {op : Operation α} (hop : h.operations[id]? = some op) :
    h.Reaches Source.Works (h.finish id op) := by
  rw [finish]
  split
  next => exact .one (.leave h hop _ _) trivial
  next => exact .one (.leave h hop _ _) trivial
  next =>
    -- The hook runs before the operation is unwound.
    exact (Reaches.elsewhere (.panic h _)).trans
      (.one (.leave (h.panic operationPanic) hop _ _) trivial)

/-- An operation that ends does not ask what was put in its place. -/
theorem finish_setOperation (h : Host ids α) (id : Nat) (x op : Operation α) :
    (h.setOperation id x).finish id op = h.finish id op := by
  have hleave : ∀ (h : Host ids α) exit outcome,
      (h.setOperation id x).leave id op exit outcome = h.leave id op exit outcome :=
    fun h exit outcome => by
      simp only [leave, setOperation, List.set_set]
      rfl
  rw [finish, finish]
  split
  next => exact hleave ..
  next => exact hleave ..
  next => exact hleave (h.panic operationPanic) ..

/-- An operation that runs for the first time waits then, or is at its end. -/
theorem startOperation_cases {op : Operation α} (hop : h.operations[id]? = some op)
    (hout : op.outcome = none) :
    ∃ op', (h.enter id op).operations[id]? = some op' ∧
      h.startOperation id =
        if op.delay = 0 then (h.enter id op).finish id op' else h.enter id op := by
  refine ⟨_, List.getElem?_set_self (List.getElem?_eq_some_iff.1 hop).1, ?_⟩
  simp only [startOperation, hop, hout, Option.isSome_none, Bool.false_eq_true, if_false]
  by_cases hdelay : op.delay = 0
  · simp only [enter, hdelay, if_true, finish_setOperation]
    rfl
  · simp only [enter, hdelay, hout, if_false]
    rfl

theorem reaches_startOperation (h : Host ids α) (id : Nat) :
    h.Reaches Source.Works (h.startOperation id) := by
  cases hop : h.operations[id]? with
  | none =>
      rw [startOperation, hop]
      exact .refl h
  | some op =>
      cases hout : op.outcome with
      | some _ =>
          simp only [startOperation, hop, hout, Option.isSome_some, if_true]
          exact .refl h
      | none =>
          obtain ⟨op', hop', heq⟩ := startOperation_cases hop hout
          have henter : h.Reaches Source.Works (h.enter id op) := .one (.enter h hop) trivial
          rw [heq]
          split
          next => exact henter.trans (reaches_finish hop')
          next => exact henter

theorem reaches_wakeOperation (h : Host ids α) (id : Nat) :
    h.Reaches Source.Works (h.wakeOperation id) := by
  rw [wakeOperation]
  split
  next => exact .refl h
  next op hop => exact reaches_finish hop

theorem reaches_perform (h : Host ids α) (work : Work) :
    h.Reaches Source.Works (h.perform work) := by
  cases work with
  | acknowledge arrival => exact .elsewhere (.acknowledge h arrival)
  | startLoop => exact .elsewhere (.panic h _)
  | startOperation id => exact reaches_startOperation h id

theorem reaches_runReady (h : Host ids α) : h.Reaches Source.Works h.runReady := by
  have hnone : h.Elsewhere { h with ready := [] } := ⟨rfl, rfl, rfl, rfl, rfl⟩
  exact (Reaches.elsewhere hnone).trans (.foldl reaches_perform h.ready _)

theorem reaches_runTimer (h : Host ids α) (t : Timer) : h.Reaches Source.Works (h.runTimer t) := by
  cases t with
  | sweep id =>
      cases hs : h.sweeps[id]? with
      | none =>
          rw [runTimer, runSweep, hs]
          exact .refl h
      | some s => exact .one (.sweep h hs) trivial
  | monitor id =>
      cases hm : h.monitor? id with
      | none =>
          rw [runTimer, runMonitor, hm]
          exact .refl h
      | some m => exact .one (.monitor h hm) trivial
  | operation id => exact reaches_wakeOperation h id

theorem reaches_runDue (h : Host ids α) : h.Reaches Source.Works h.runDue :=
  .foldl (fun h (t : Tick × Timer) => reaches_runTimer h t.2) _ _

theorem reaches_settle (h : Host ids α) : h.Reaches Source.Works h.settle :=
  (((reaches_runReady h).trans (reaches_runDue _)).trans (reaches_runReady _)).trans
    (reaches_runDue _)

/-! ### No sweep is due -/

/-- A sweeper of a registry has nothing to do yet. -/
def RestsAt (h : Host ids α) (k id : Nat) : Prop :=
  ∀ s d, h.sweeps[id]? = some s → s.registry = k → s.sweeper.deadline? = some d → h.now < d

/-- No sweep of a registry is due. -/
def Rests (h : Host ids α) (k : Nat) : Prop := ∀ id, h.RestsAt k id

/-- Work that takes no time makes no sweep due. -/
theorem Step.restsAt {e : Event} (hst : Step h e h') (he : e.source.Works)
    (hrest : h.RestsAt k id) : h'.RestsAt k id := by
  intro s d hs hk hd
  have hnow : h'.now = h.now := hst.now_cases.elim (fun heq => heq) fun ⟨hclock, _⟩ => by
    rw [hclock] at he
    exact he.elim
  rw [hnow]
  rcases hst.sweeps with heq | ⟨j, s₁, -, hs₁, -, heq⟩
  · exact hrest s d (heq ▸ hs) hk hd
  · rcases entry_set (heq ▸ hs) with ⟨rfl, rfl⟩ | ⟨-, hs⟩
    · cases hr : h.registryAt? s₁.registry with
      | none =>
          rw [hr] at hd
          exact hrest s₁ d hs₁ hk hd
      | some r =>
          rw [hr] at hd
          exact Task.Sweeper.lt_deadline?_fired hd
    · exact hrest s d hs hk hd

/-- A registry stays. -/
theorem Reaches.registryAt? {P : Source → Prop} (h₀ : h.Reaches P h')
    (hk : (h.registryAt? k).isSome = true) : (h'.registryAt? k).isSome = true :=
  h₀.keeps (I := fun h' => (h'.registryAt? k).isSome = true)
    (fun hst _ hI => by rw [hst.registry, Option.isSome_map]; exact hI) hk

theorem Reaches.restsAt (h₀ : h.Reaches Source.Works h') (hrest : h.RestsAt k id) :
    h'.RestsAt k id :=
  h₀.keeps (fun hst he hI => hst.restsAt he hI) hrest

theorem restsAt_runSweep (hk : (h.registryAt? k).isSome = true) : (h.runSweep id).RestsAt k id := by
  intro s d hs hsk hd
  have hnow : (h.runSweep id).now = h.now := (reaches_runTimer h (.sweep id)).now
  rw [hnow]
  cases hs₁ : h.sweeps[id]? with
  | none =>
      rw [runSweep, hs₁] at hs
      cases hs₁.symm.trans hs
  | some s₁ =>
      rw [sweeps_runSweep hs₁, List.getElem?_set_self (List.getElem?_eq_some_iff.1 hs₁).1] at hs
      cases hs
      obtain ⟨r, hr⟩ := Option.isSome_iff_exists.1 hk
      rw [hsk, hr] at hd
      exact Task.Sweeper.lt_deadline?_fired hd

theorem mem_timers_sweep {s : Sweep} {d : Tick} (hs : h.sweeps[id]? = some s)
    (hd : s.sweeper.deadline? = some d) : (d, .sweep id) ∈ h.timers := by
  refine List.mem_append_left _ (List.mem_append_left _ (List.mem_filterMap.2 ⟨(s, id), ?_, ?_⟩))
  · exact List.mem_zipIdx_iff_getElem?.2 hs
  · simp only [hd, Option.map_some]

/-- Once all that is due was done, no sweep of a registry is. -/
theorem rests_runDue (hk : (h.registryAt? k).isSome = true) : h.runDue.Rests k := by
  intro id
  by_cases hdue : ∃ s d, h.sweeps[id]? = some s ∧ s.sweeper.deadline? = some d ∧ d ≤ h.now
  · obtain ⟨s, d, hs, hd, hle⟩ := hdue
    have hmem : (d, Timer.sweep id) ∈ (h.timers.filter fun t => decide (t.1 ≤ h.now)).mergeSort
        fun a b => decide (a.1 ≤ b.1) :=
      List.mem_mergeSort.2 (List.mem_filter.2 ⟨mem_timers_sweep hs hd, decide_eq_true hle⟩)
    -- What comes before its turn does not matter, and nothing makes it due again.
    obtain ⟨front, back, hsplit⟩ := List.append_of_mem hmem
    have hstep : ∀ (h : Host ids α) (t : Tick × Timer), h.Reaches Source.Works (h.runTimer t.2) :=
      fun h t => reaches_runTimer h t.2
    have hfront := Reaches.foldl hstep front h
    rw [runDue, hsplit, List.foldl_append, List.foldl_cons]
    exact (Reaches.foldl hstep back _).restsAt (restsAt_runSweep (hfront.registryAt? hk))
  · refine (reaches_runDue h).restsAt fun s d hs _ hd => ?_
    exact Nat.lt_of_not_le fun hle => hdue ⟨s, d, hs, hd, hle⟩

/-- So none is once the host has settled. -/
theorem rests_settle (hk : (h.registryAt? k).isSome = true) : h.settle.Rests k := by
  have hsettle := ((reaches_runReady h).trans (reaches_runDue _)).trans (reaches_runReady _)
  exact rests_runDue (hsettle.registryAt? hk)

/-- While no sweep of a registry is due and there is a sweeper, no task that is held ended longer
ago than the retention and one interval, from one interval after the sweeper was started. -/
theorem Sweeps.age_le {since : Tick} (hsweeps : h.Sweeps id k since) (hrest : h.Rests k)
    {r : Task.Registry} (hlater : since + r.sweepInterval ≤ h.now) (hr : h.registryAt? k = some r)
    {key : String} {x : Task.Record} {t : Tick} (hx : r.get? key = some x)
    (ht : x.endedAt = some t) : h.now - t ≤ r.retention + r.sweepInterval := by
  obtain ⟨s, r₁, hs, hk, hr₁, hsweeping, hswept⟩ := hsweeps
  cases hr.symm.trans hr₁
  have hdeadline : s.sweeper.deadline? = some s.sweeper.ticker.next := by
    rw [Task.Sweeper.deadline?, if_pos hsweeping.live, Ticker.deadline?, if_neg]
    exact Nat.pos_iff_ne_zero.1 (hsweeping.period ▸ hsweeping.interval_pos)
  exact hswept.age_le (hrest id s _ hs hk hdeadline) hlater hx ht

/-! ### Time -/

theorem reaches_atTime {t : Tick} (ht : h.now ≤ t) : h.Reaches Source.Unasked (h.atTime t) :=
  .one (.pass h ht) trivial

theorem reaches_sleepFor {target : Tick} (fuel : Nat) (hle : h.now ≤ target) :
    h.Reaches Source.Unasked (sleepFor target fuel h) ∧ (sleepFor target fuel h).now = target := by
  induction fuel generalizing h with
  | zero => exact ⟨reaches_atTime hle, rfl⟩
  | succ fuel ih =>
      rw [sleepFor]
      split
      next => exact ⟨reaches_atTime hle, rfl⟩
      next d _ =>
        split
        next hd =>
          have hsettle := reaches_settle (h.atTime (max d h.now))
          obtain ⟨hrest, hnow⟩ := ih (h := (h.atTime (max d h.now)).settle)
            (Nat.le_trans (Nat.le_of_eq hsettle.now) (Nat.max_le.2 ⟨hd, hle⟩))
          exact ⟨((reaches_atTime (Nat.le_max_right d h.now)).trans
            (hsettle.mono fun _ => Source.Works.unasked)).trans hrest, hnow⟩
        next => exact ⟨reaches_atTime hle, rfl⟩

theorem reaches_sleep (h : Host ids α) (d : Span) :
    h.Reaches Source.Unasked (h.sleep d) ∧ (h.sleep d).now = h.now + d := by
  have hsettle := reaches_settle h
  obtain ⟨hrest, hnow⟩ := reaches_sleepFor (h := h.settle) (d + 1)
    (Nat.le_trans (Nat.le_of_eq hsettle.now) (Nat.le_add_right h.now d))
  exact ⟨(hsettle.mono fun _ => Source.Works.unasked).trans hrest, hnow⟩

theorem reaches_jump (h : Host ids α) (d : Span) :
    h.Reaches Source.Unasked (h.jump d) ∧ (h.jump d).now = h.now + d := by
  have hsettle := reaches_settle (h.atTime (h.now + d))
  exact ⟨(reaches_atTime (Nat.le_add_right h.now d)).trans
    (hsettle.mono fun _ => Source.Works.unasked), hsettle.now⟩

end Vigil.Host
