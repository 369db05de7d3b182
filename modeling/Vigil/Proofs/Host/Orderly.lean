import Vigil.Proofs.Host.Turns

/-!
# Host — what a host does by itself is turns

`settle`, `sleep` and `jump` run whatever is ready or due, and do not look at what has become of an
operation before they wake it.  They keep to the turns of operations nevertheless, on a host that is
orderly (`Orderly`): what waits there was polled and is not over.  A host without operations is, and
it stays so when operations are handed over for its registries.

* `Turn.orderly`: a turn that no caller makes leaves a host orderly.
* `pairwise_timers`: nothing is due twice at once, so an operation that is due is still waiting when
  its turn comes.
* `turnsTo_settle`, `turnsTo_sleep`, `turnsTo_jump`, `turnsTo_abortOperation`: what a host does is
  turns.
-/

namespace Vigil.Host
variable {ids : Nat → String} {α : Type} {h h₁ h' : Host ids α} {n : Nat} {op : Operation α}
  {e : Event} {t : Timer}

/-! ### Orderly hosts -/

/-- The registry of an operation is there, its task is finished only if it is over, and it waits
only once it was polled, and as long as it is not over. -/
structure Prepared (h : Host ids α) (op : Operation α) : Prop where
  present : (h.registryAt? op.registry).isSome = true
  task : op.outcome = none → op.task ≠ .finished
  waits : op.wake.isSome = true → op.outcome = none ∧ ∃ id, op.task = .running id

/-- Every operation is prepared. -/
def Orderly (h : Host ids α) : Prop :=
  ∀ (n : Nat) (op : Operation α), h.operations[n]? = some op → h.Prepared op

theorem Orderly.of_operations (hnone : h.operations = []) : h.Orderly := fun n op hop => by
  rw [hnone] at hop
  cases hop

/-- An operation is handed over for a registry that is there. -/
theorem Orderly.addOperation (ho : h.Orderly) {k : Nat} (hk : (h.registryAt? k).isSome = true)
    (name : String) (delay : Span) (ending : Ending α) :
    (h.addOperation k name delay ending).Orderly := by
  intro n op hop
  rcases entry_concat hop with ⟨-, rfl⟩ | hop
  · exact ⟨hk, fun _ => Task.Tracked.noConfusion, fun hwake => nomatch hwake⟩
  · exact ⟨(ho n op hop).present, (ho n op hop).task, (ho n op hop).waits⟩

/-- Only a caller hands operations over. -/
theorem Step.length_operations (hst : Step h e h') (hs : e.source.Unasked) :
    h'.operations.length = h.operations.length := by
  cases hst with
  | call | track => exact hs.elim
  | @enter _ n op hop => rw [operations_enter, List.length_set]
  | @leave _ n op hop exit outcome => rw [operations_leave, List.length_set]
  | sweep _ hsweep => rw [runSweep_eq hsweep]
  | monitor _ hm =>
      obtain ⟨_, -, he⟩ := runMonitor_cases hm
      rw [he.operations]
      rfl
  | pass => rfl
  | elsewhere he => rw [he.operations]

/-- A turn that no caller makes leaves a host orderly. -/
theorem Turn.orderly (ht : Turn h e h') (hs : e.source.Unasked) (ho : h.Orderly) :
    h'.Orderly := by
  have hpresent : ∀ {k}, (h.registryAt? k).isSome = true → (h'.registryAt? k).isSome = true :=
    fun hk => by rw [ht.registry, Option.isSome_map, hk]
  intro n op' hop'
  obtain ⟨op, hop⟩ : ∃ op, h.operations[n]? = some op := by
    obtain ⟨h₁, he, hst⟩ := ht.step
    have hlength := hst.length_operations hs
    rw [he.operations] at hlength
    exact ⟨_, List.getElem?_eq_getElem (hlength ▸ (List.getElem?_eq_some_iff.1 hop').1)⟩
  have hp := ho n op hop
  rcases ht.operation hop with ⟨hsame, -⟩ | ⟨hout, ⟨-, rfl⟩ | ⟨h₁, exit, outcome, hl, -, rfl⟩⟩
  · cases hsame.symm.trans hop'
    exact ⟨hpresent hp.present, hp.task, hp.waits⟩
  · obtain ⟨_, id, hop₁, hout₁, hgo⟩ := running_enter hop hout hp.present (hp.task hout)
    cases hop₁.symm.trans hop'
    have hsame := hop'.symm.trans (getElem?_enter hop)
    refine ⟨?_, fun _ => by rw [hgo]; exact Task.Tracked.noConfusion, fun _ => ⟨hout₁, id, hgo⟩⟩
    rw [Option.some.inj hsame]
    exact hpresent hp.present
  · have hleft := getElem?_leave (hl.elsewhere.operations ▸ hop) exit outcome
    cases hleft.symm.trans hop'
    exact ⟨hpresent hp.present, fun hnone => (nomatch hnone), fun hwake => nomatch hwake⟩

/-! ### Getting there by turns -/

/-- A host that is orderly gets there by turns that no caller makes, and is orderly then. -/
def TurnsTo (h h' : Host ids α) : Prop :=
  h.Orderly → h'.Orderly ∧ ∃ es, Run Turn h es h' ∧ ∀ e ∈ es, e.source.Unasked

namespace TurnsTo

theorem refl (h : Host ids α) : h.TurnsTo h := fun ho =>
  ⟨ho, [], .refl h, fun _ he => nomatch he⟩

theorem trans (h₀ : h.TurnsTo h₁) (ht : h₁.TurnsTo h') : h.TurnsTo h' := by
  intro ho
  obtain ⟨ho₁, es, hrun, hall⟩ := h₀ ho
  obtain ⟨ho', fs, hrun', hall'⟩ := ht ho₁
  exact ⟨ho', es ++ fs, hrun.trans hrun', List.forall_mem_append.2 ⟨hall, hall'⟩⟩

theorem run {es : List Event} (hrun : Run Turn h es h') (hall : ∀ e ∈ es, e.source.Unasked) :
    h.TurnsTo h' := by
  refine fun ho => ⟨?_, es, hrun, hall⟩
  induction hrun with
  | refl => exact ho
  | more ht _ ih =>
      obtain ⟨hs, hall⟩ := List.forall_mem_cons.1 hall
      exact ih hall (ht.orderly hs ho)

theorem one (ht : Turn h e h') (hs : e.source.Unasked) : h.TurnsTo h' :=
  run (.one ht) (List.forall_mem_singleton.2 hs)

theorem elsewhere (he : h.Elsewhere h') : h.TurnsTo h' :=
  one (.other (.elsewhere he) fun _ => Source.noConfusion) trivial

theorem foldl {β : Type} {f : Host ids α → β → Host ids α}
    (hf : ∀ (h : Host ids α) b, h.TurnsTo (f h b))
    (bs : List β) (h : Host ids α) : h.TurnsTo (bs.foldl f h) := by
  induction bs generalizing h with
  | nil => exact refl h
  | cons b bs ih => exact (hf h b).trans (ih _)

end TurnsTo

theorem turnsTo_abortOperation (h : Host ids α) (n : Nat) : h.TurnsTo (h.abortOperation n) := by
  obtain ⟨e, ht, hs⟩ := turn_abortOperation h n
  exact .one ht hs

/-! ### What is ready -/

/-- An operation that is started is not over, and so its task is not finished. -/
theorem turnsTo_startOperation (h : Host ids α) (n : Nat) : h.TurnsTo (h.startOperation n) := by
  intro ho
  cases hop : h.operations[n]? with
  | none =>
      rw [startOperation, hop]
      exact TurnsTo.refl h ho
  | some op =>
      cases hout : op.outcome with
      | some _ =>
          simp only [startOperation, hop, hout, Option.isSome_some, if_true]
          exact TurnsTo.refl h ho
      | none =>
          have hp := ho n op hop
          obtain ⟨es, hrun, hall⟩ := turns_startOperation hop hout hp.present (hp.task hout)
          exact TurnsTo.run hrun (fun e he => by rw [hall e he]; trivial) ho

theorem turnsTo_runReady (h : Host ids α) : h.TurnsTo h.runReady := by
  have hnone : h.Elsewhere { h with ready := [] } := ⟨rfl, rfl, rfl, rfl, rfl⟩
  refine (TurnsTo.elsewhere hnone).trans (.foldl (fun h work => ?_) h.ready _)
  cases work with
  | acknowledge arrival => exact .elsewhere (.acknowledge h arrival)
  | startLoop => exact .elsewhere (.panic h _)
  | startOperation n => exact turnsTo_startOperation h n

/-! ### What is due -/

/-- The operation that a timer is about, if it is about one, waits. -/
def Waits (h : Host ids α) : Timer → Prop
  | .operation n => ∃ op, h.operations[n]? = some op ∧ op.wake.isSome = true
  | .sweep _ | .monitor _ => True

/-- What is due of a timer is a turn, of no operation but its own. -/
theorem turn_runTimer (ho : h.Orderly) (hw : h.Waits t) :
    ∃ e, Turn h e (h.runTimer t) ∧ e.source.Unasked ∧
      ∀ n, e.source = .operation n → t = .operation n := by
  have hother : ∀ {e}, Step h e (h.runTimer t) → e.source.Unasked →
      (∀ n, e.source ≠ .operation n) → ∃ e, Turn h e (h.runTimer t) ∧ e.source.Unasked ∧
        ∀ n, e.source = .operation n → t = .operation n :=
    fun hst hs hne => ⟨_, .other hst hne, hs, fun n hn => absurd hn (hne n)⟩
  have hnothing : h.runTimer t = h → Step h ⟨.others, none⟩ (h.runTimer t) := fun heq => by
    rw [heq]
    exact .elsewhere (.refl h)
  cases t with
  | sweep id =>
      cases hs : h.sweeps[id]? with
      | none =>
          exact hother (hnothing (by rw [runTimer, runSweep, hs])) trivial
            fun _ => Source.noConfusion
      | some s => exact hother (.sweep h hs) trivial fun _ => Source.noConfusion
  | monitor id =>
      cases hm : h.monitor? id with
      | none =>
          exact hother (hnothing (by rw [runTimer, runMonitor, hm])) trivial
            fun _ => Source.noConfusion
      | some m => exact hother (.monitor h hm) trivial fun _ => Source.noConfusion
  | operation n =>
      obtain ⟨op, hop, hwake⟩ := hw
      obtain ⟨hout, id, hgo⟩ := (ho n op hop).waits hwake
      obtain ⟨use?, ht⟩ := turn_wakeOperation hop hout hgo
      exact ⟨_, ht, trivial, fun m hm => congrArg Timer.operation (Source.operation.inj hm)⟩

/-- What waits for another timer waits still. -/
theorem Waits.runTimer {u : Timer} (ho : h.Orderly) (ht : h.Waits t) (hu : h.Waits u)
    (hne : t ≠ u) : (h.runTimer t).Waits u := by
  cases u with
  | sweep | monitor => trivial
  | operation n =>
      obtain ⟨op, hop, hwake⟩ := hu
      obtain ⟨e, hturn, -, hown⟩ := turn_runTimer ho ht
      have hs : e.source ≠ .operation n := fun hs => hne (hown n hs)
      refine ⟨op, ?_, hwake⟩
      rcases hturn.operation hop with ⟨hsame, -⟩ | ⟨-, ⟨rfl, -⟩ | ⟨_, _, _, -, rfl, -⟩⟩
      · exact hsame
      · exact absurd rfl hs
      · exact absurd rfl hs

theorem turnsTo_runTimers {due : List (Tick × Timer)} (hone : due.Pairwise (·.2 ≠ ·.2))
    (hwaits : ∀ t ∈ due, h.Waits t.2) :
    h.TurnsTo (due.foldl (fun h t => h.runTimer t.2) h) := by
  induction due generalizing h with
  | nil => exact .refl h
  | cons t due ih =>
      intro ho
      obtain ⟨hne, hone⟩ := List.pairwise_cons.1 hone
      obtain ⟨hw, hwaits⟩ := List.forall_mem_cons.1 hwaits
      obtain ⟨e, ht, hs, -⟩ := turn_runTimer ho hw
      have hrest : ∀ u ∈ due, (h.runTimer t.2).Waits u.2 := fun u hu =>
        hw.runTimer ho (hwaits u hu) (hne u hu)
      exact (TurnsTo.one ht hs).trans (ih hone hrest) ho

theorem mem_deadlines {β : Type} {deadline? : β → Option Tick} {timer : Nat → Timer} {bs : List β}
    {t : Tick × Timer} (ht : t ∈ deadlines deadline? timer bs) :
    ∃ i b, bs[i]? = some b ∧ deadline? b = some t.1 ∧ t.2 = timer i := by
  obtain ⟨⟨b, i⟩, hmem, heq⟩ := List.mem_filterMap.1 ht
  obtain ⟨d, hd, rfl⟩ := Option.map_eq_some_iff.1 heq
  exact ⟨i, b, List.mem_zipIdx_iff_getElem?.1 hmem, hd, rfl⟩

/-- Each member of a list has one deadline at most. -/
theorem pairwise_deadlines {β : Type} (deadline? : β → Option Tick) {timer : Nat → Timer}
    (htimer : ∀ i j, timer i = timer j → i = j) (bs : List β) :
    (deadlines deadline? timer bs).Pairwise (·.2 ≠ ·.2) := by
  have hindices : (bs.zipIdx.map Prod.snd).Nodup := by
    rw [List.zipIdx_map_snd]
    exact List.nodup_range'
  refine List.pairwise_filterMap.2 ((List.pairwise_map.1 hindices).imp ?_)
  rintro ⟨b, i⟩ ⟨c, j⟩ hij t ht u hu heq
  obtain ⟨d, -, rfl⟩ := Option.map_eq_some_iff.1 ht
  obtain ⟨d', -, rfl⟩ := Option.map_eq_some_iff.1 hu
  exact hij (htimer i j heq)

/-- Every timer is listed once. -/
theorem pairwise_timers (h : Host ids α) : h.timers.Pairwise (·.2 ≠ ·.2) := by
  have hne : ∀ {β γ : Type} {f : β → Option Tick} {g : γ → Option Tick} {timer timer' : Nat → Timer}
      {bs : List β} {cs : List γ}, (∀ i j, timer i ≠ timer' j) →
      ∀ t ∈ deadlines f timer bs, ∀ u ∈ deadlines g timer' cs, t.2 ≠ u.2 :=
    fun hne t ht u hu => by
      obtain ⟨i, _, -, -, hi⟩ := mem_deadlines ht
      obtain ⟨j, _, -, -, hj⟩ := mem_deadlines hu
      rw [hi, hj]
      exact hne i j
  refine List.pairwise_append.2 ⟨List.pairwise_append.2 ⟨?_, ?_, ?_⟩, ?_, ?_⟩
  · exact pairwise_deadlines _ (fun _ _ => Timer.sweep.inj) _
  · exact pairwise_deadlines _ (fun _ _ => Timer.monitor.inj) _
  · exact hne fun _ _ => Timer.noConfusion
  · exact pairwise_deadlines _ (fun _ _ => Timer.operation.inj) _
  · intro t ht
    rcases List.mem_append.1 ht with ht | ht
    · exact hne (fun _ _ => Timer.noConfusion) t ht
    · exact hne (fun _ _ => Timer.noConfusion) t ht

/-- An operation is listed while it waits. -/
theorem waits_of_mem_timers {u : Tick × Timer} (hu : u ∈ h.timers) : h.Waits u.2 := by
  rcases List.mem_append.1 hu with hu | hu
  · rcases List.mem_append.1 hu with hu | hu
    · obtain ⟨i, _, -, -, hi⟩ := mem_deadlines hu
      rw [hi]
      trivial
    · obtain ⟨i, _, -, -, hi⟩ := mem_deadlines hu
      rw [hi]
      trivial
  · obtain ⟨i, op, hop, hwake, hi⟩ := mem_deadlines hu
    rw [hi]
    exact ⟨op, hop, by rw [hwake, Option.isSome_some]⟩

theorem turnsTo_runDue (h : Host ids α) : h.TurnsTo h.runDue := by
  have hperm := List.mergeSort_perm (h.timers.filter fun t => decide (t.1 ≤ h.now))
    fun a b => decide (a.1 ≤ b.1)
  refine turnsTo_runTimers (hperm.symm.pairwise (h.pairwise_timers.filter _) Ne.symm) ?_
  exact fun u hu => waits_of_mem_timers (List.mem_filter.1 (hperm.mem_iff.1 hu)).1

/-! ### Time -/

/-- A host settles by turns. -/
theorem turnsTo_settle (h : Host ids α) : h.TurnsTo h.settle :=
  (((turnsTo_runReady h).trans (turnsTo_runDue _)).trans (turnsTo_runReady _)).trans
    (turnsTo_runDue _)

theorem turnsTo_atTime {time : Tick} (hle : h.now ≤ time) : h.TurnsTo (h.atTime time) :=
  .one (.other (.pass h hle) fun _ => Source.noConfusion) trivial

theorem turnsTo_sleepFor {target : Tick} (fuel : Nat) (hle : h.now ≤ target) :
    h.TurnsTo (sleepFor target fuel h) := by
  induction fuel generalizing h with
  | zero => exact turnsTo_atTime hle
  | succ fuel ih =>
      rw [sleepFor]
      split
      next => exact turnsTo_atTime hle
      next d _ =>
        split
        next hd =>
          have hsettle := turnsTo_settle (h.atTime (max d h.now))
          have hnow : (h.atTime (max d h.now)).settle.now ≤ target :=
            Nat.le_trans (Nat.le_of_eq (reaches_settle _).now) (Nat.max_le.2 ⟨hd, hle⟩)
          exact ((turnsTo_atTime (Nat.le_max_right d h.now)).trans hsettle).trans (ih hnow)
        next => exact turnsTo_atTime hle

/-- A host sleeps by turns. -/
theorem turnsTo_sleep (h : Host ids α) (d : Span) : h.TurnsTo (h.sleep d) :=
  (turnsTo_settle h).trans (turnsTo_sleepFor (d + 1)
    (Nat.le_trans (Nat.le_of_eq (reaches_settle h).now) (Nat.le_add_right h.now d)))

/-- A host whose clock jumps does what is due then by turns. -/
theorem turnsTo_jump (h : Host ids α) (d : Span) : h.TurnsTo (h.jump d) :=
  (turnsTo_atTime (Nat.le_add_right h.now d)).trans (turnsTo_settle _)

end Vigil.Host
