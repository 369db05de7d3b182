import Vigil.Proofs.Host.Abandoned
import Vigil.Proofs.Host.Turns

/-!
# Host — what an operation does to its registry

An operation that runs as a tracked task starts its task when it is polled first, and then attempts
to end it once: when it is at its end, or when it is dropped.  Others may end or start the task
again in between, and so may do to it what they like.

* `Course`: the deeds of an operation, by what has become of it; every turn keeps to it
  (`Handed.turn`), and so every run.
* `Deed`: what one deed does to the registry, whatever its records are (`Handed.deed`).

**Main theorem** (`attempted_once`): this holds of every operation of a host that gives out distinct
ids, in every run.
-/

namespace Vigil

/-- A use that leaves a registry alone and logs nothing changes nothing. -/
theorem Platform.fst_withRegistry_same {β : Type} {p : Platform} {k : Nat} {default x : β}
    {f : Task.Registry → Task.Registry × β × List Notice} (hf : ∀ r, f r = (r, x, [])) :
    (p.withRegistry k default f).1 = p := by
  rw [withRegistry]
  split
  next => rfl
  next r hr =>
    obtain ⟨hlt, rfl⟩ := List.getElem?_eq_some_iff.1 hr
    rw [hf]
    simp only [note, List.set_getElem_self, List.append_nil]

namespace Host
variable {ids : Nat → String} {α : Type} {h h₀ h₁ h' : Host ids α} {k n : Nat} {name : String}
  {e : Event} {es : List Event}

/-! ### The deeds of an operation -/

/-- Whether something is done to a registry. -/
def acts (use : Nat × Task.Event) : Bool :=
  match use.2.act with
  | .idle => false
  | _ => true

/-- What the operation of a number does to a registry with an event, if anything. -/
def Event.deed? (n : Nat) (e : Event) : Option (Nat × Task.Event) :=
  match e.source with
  | .operation m => if m = n then e.use?.filter acts else none
  | _ => none

theorem Event.deed?_self (n : Nat) (use? : Option (Nat × Task.Event)) :
    deed? n ⟨.operation n, use?⟩ = use?.filter acts := if_pos rfl

theorem Event.deed?_of_ne (hs : e.source ≠ .operation n) : e.deed? n = none := by
  rw [deed?]
  split
  next m hm => exact if_neg fun heq => hs (by rw [hm, heq])
  next => rfl

/-- What an operation has done to the registry `k`, in order, by the state of its task and by what
has become of it: it is the operation `n`, which runs as the task `name` and would end with
`ending`. -/
inductive Course (ids : Nat → String) (n k : Nat) (name : String) (ending : Ending α) :
    Task.Tracked → Option (Outcome α) → List (Nat × Task.Event) → Prop where
  /-- It was not polled yet. -/
  | fresh : Course ids n k name ending (.fresh name) none []
  /-- It was dropped before it was polled. -/
  | unpolled : Course ids n k name ending .finished (some .aborted) []
  /-- It was polled, and is not over. -/
  | running (t : Tick) :
      Course ids n k name ending (.running (ids n)) none [(k, ⟨t, .started (ids n) name⟩)]
  | value {a : α} (h : ending = .value a) (t t' : Tick) (applied : Bool) :
      Course ids n k name ending .finished (some (.value a))
        [(k, ⟨t, .started (ids n) name⟩), (k, ⟨t', .attempted (ids n) .succeeded applied⟩)]
  | error {text : String} (h : ending = .error text) (t t' : Tick) (applied : Bool) :
      Course ids n k name ending .finished (some (.error text))
        [(k, ⟨t, .started (ids n) name⟩),
          (k, ⟨t', .attempted (ids n) (.failed text) applied⟩)]
  /-- It was dropped after it was polled. -/
  | dropped (t t' : Tick) (applied : Bool) :
      Course ids n k name ending .finished (some .aborted)
        [(k, ⟨t, .started (ids n) name⟩),
          (k, ⟨t', .attempted (ids n) (.cancelled Task.droppedReason) applied⟩)]
  /-- It panicked; whether that is an attempt is left open. -/
  | panicked (h : ending = .panic) (t : Tick) {attempts : List (Nat × Task.Event)}
      (hone : attempts.length ≤ 1) :
      Course ids n k name ending .finished (some .panicked)
        ((k, ⟨t, .started (ids n) name⟩) :: attempts)

namespace Course
variable {ending : Ending α} {task : Task.Tracked} {deeds : List (Nat × Task.Event)}

/-- The operation is polled. -/
theorem poll (hc : Course ids n k name ending task none deeds) (r : Task.Registry) (t : Tick) :
    Course ids n k name ending (task.enter r (ids n) t).1 none (deeds ++
      (Event.deed? n ⟨.operation n, some (k, ⟨t, task.entering (ids n)⟩)⟩).toList) := by
  rw [Event.deed?_self]
  cases hc with
  | fresh => exact .running t
  | running t₀ => exact .running t₀

/-- The operation is left. -/
theorem leave {op : Operation α} {exit : Task.Tracked.Exit} {outcome : Outcome α}
    (hl : Leaving h op h₁ exit outcome) (hend : op.ending = ending)
    (hc : Course ids n k name ending op.task none deeds) (r : Task.Registry) (t : Tick) :
    Course ids n k name ending (op.task.leave r exit t).1 (some outcome) (deeds ++
      (Event.deed? n ⟨.operation n, some (k, ⟨t, op.task.leaving r exit t⟩)⟩).toList) := by
  rw [Event.deed?_self]
  generalize hgo : op.task = task at hc
  cases hc with
  | fresh =>
      cases hl with
      | resolved hrun => cases hgo.symm.trans hrun
      | dropped => exact .unpolled
  | running t₀ =>
      cases hl with
      | resolved =>
          rw [hend]
          cases hcase : ending with
          | value a => exact .value rfl t₀ t _
          | error text => exact .error rfl t₀ t _
          | panic => exact .panicked rfl t₀ (Nat.le_refl 1)
      | dropped => exact .dropped t₀ t _

end Course

/-- The operation `n` was handed over to run as the task `name` in the registry `k`, and has done
its `deeds`. -/
structure Handed (h : Host ids α) (n k : Nat) (name : String) (ending : Ending α)
    (deeds : List (Nat × Task.Event)) (op : Operation α) : Prop where
  operation : h.operations[n]? = some op
  registry : op.registry = k
  ends : op.ending = ending
  present : (h.registryAt? k).isSome = true
  course : Course ids n k name ending op.task op.outcome deeds

namespace Handed
variable {ending : Ending α} {deeds : List (Nat × Task.Event)} {op : Operation α}

theorem new (hk : (h.registryAt? k).isSome = true) (name : String) (delay : Span)
    (ending : Ending α) :
    (h.addOperation k name delay ending).Handed h.operations.length k name ending []
      ⟨k, .fresh name, delay, ending, none, none⟩ where
  operation := List.getElem?_concat_length
  registry := rfl
  ends := rfl
  present := hk
  course := .fresh

theorem uses (hh : h.Handed n k name ending deeds op) {r : Task.Registry}
    (hr : h.registryAt? k = some r) (act : Task.Registry → Task.Act) :
    h.uses op.registry act = some (k, ⟨h.now, act r⟩) := by
  rw [Host.uses, hh.registry, hr]
  rfl

/-- A turn adds what the operation does with it to its deeds. -/
theorem turn (hh : h.Handed n k name ending deeds op) (ht : Turn h e h') :
    ∃ op', h'.Handed n k name ending (deeds ++ (e.deed? n).toList) op' := by
  obtain ⟨r, hr⟩ := Option.isSome_iff_exists.1 hh.present
  have hpresent : (h'.registryAt? k).isSome = true := by
    rw [ht.registry, Option.isSome_map, hh.present]
  rcases ht.operation hh.operation with
    ⟨hop, hs⟩ | ⟨hout, ⟨rfl, rfl⟩ | ⟨h₁, exit, outcome, hl, rfl, rfl⟩⟩
  · rw [Event.deed?_of_ne hs, Option.toList_none, List.append_nil]
    exact ⟨op, hop, hh.registry, hh.ends, hpresent, hh.course⟩
  · have hcourse := (hout ▸ hh.course).poll r h.now
    rw [hh.uses hr]
    refine ⟨_, getElem?_enter hh.operation, hh.registry, hh.ends, hpresent, ?_⟩
    rw [hh.registry, hr, Option.elim_some, hout]
    exact hcourse
  · have hcourse := (hout ▸ hh.course).leave hl hh.ends r h.now
    rw [hh.uses hr]
    have he := hl.elsewhere
    refine ⟨_, getElem?_leave (he.operations ▸ hh.operation) exit outcome, hh.registry, hh.ends,
      hpresent, ?_⟩
    rw [he.now, hh.registry, he.registryAt?, hr, Option.elim_some]
    exact hcourse

theorem run (hh : h.Handed n k name ending deeds op) (hrun : Run Turn h es h') :
    ∃ op', h'.Handed n k name ending (deeds ++ es.filterMap (·.deed? n)) op' := by
  induction hrun generalizing deeds op with
  | refl => exact ⟨op, by rwa [List.filterMap_nil, List.append_nil]⟩
  | @more _ _ _ e es ht _ ih =>
      obtain ⟨op', hh'⟩ := hh.turn ht
      have hdeeds : (e :: es).filterMap (·.deed? n) =
          (e.deed? n).toList ++ es.filterMap (·.deed? n) := by
        rw [List.filterMap_cons]
        cases e.deed? n <;> rfl
      rw [hdeeds, ← List.append_assoc]
      exact ih hh'

end Handed

/-! ### What a deed does -/

/-- What the operation `n`, which runs as the task `name` in the registry `k`, does to the host with
a deed. -/
inductive Deed (n k : Nat) (name : String) (h h' : Host ids α) :
    Option (Nat × Task.Event) → Prop where
  /-- There is none, and nothing is changed. -/
  | none (hp : h'.platform = h.platform) : Deed n k name h h' none
  /-- A pending record is inserted, and no other one; `start` sweeps by itself if that is due. -/
  | started {r r' : Task.Registry} (hr : h.registryAt? k = some r)
      (hr' : h'.registryAt? k = some r') (hget : ∀ id, r'.get? id =
        if id = ids n then some (.new (ids n) name h.now) else (r.sweepIfDue h.now).get? id) :
      Deed n k name h h' (some (k, ⟨h.now, .started (ids n) name⟩))
  /-- The task is to end, which is so exactly if it is held and pending. -/
  | attempted {r r' : Task.Registry} (hr : h.registryAt? k = some r)
      (hr' : h'.registryAt? k = some r') {outcome : Task.Outcome} {applied : Bool}
      (happlied : applied = true ↔ ∃ x, r.get? (ids n) = some x ∧ x.outcome = .pending)
      (hget : ∀ id, r'.get? id =
        if applied = true ∧ id = ids n then (r.get? id).map (·.finish outcome h.now)
        else r.get? id) :
      Deed n k name h h' (some (k, ⟨h.now, .attempted (ids n) outcome applied⟩))

/-- An attempt counts if the record is pending, and changes that record only. -/
theorem get?_attempt (r : Task.Registry) (id : String) (outcome : Task.Outcome) (now : Tick) :
    ((r.finish id outcome now).2.1 = true ↔ ∃ x, r.get? id = some x ∧ x.outcome = .pending) ∧
      ∀ key, (r.finish id outcome now).1.get? key =
        if (r.finish id outcome now).2.1 = true ∧ key = id then
          (r.get? key).map (·.finish outcome now)
        else r.get? key := by
  have hpending : ∀ o : Task.Outcome, o.isTerminal = false ↔ o = .pending := fun o => by
    cases o <;> simp [Task.Outcome.isTerminal]
  constructor
  · rw [r.finish_applied]
    cases r.get? id <;> simp [hpending]
  · intro key
    cases happlied : (r.finish id outcome now).2.1 with
    | false => simp [Task.Registry.finish_refused happlied]
    | true =>
        rw [r.get?_finish]
        rw [r.finish_applied] at happlied
        by_cases hkey : key = id
        · subst hkey
          simp only [if_true, true_and]
          cases hx : r.get? key with
          | none => rfl
          | some x =>
              rw [hx, Option.any_some, Bool.not_eq_true'] at happlied
              simp only [Option.map_some, happlied, Bool.false_eq_true, if_false]
        · simp only [hkey, if_false, and_false]

/-- An operation that is not over has its task before it, or runs it. -/
theorem Course.task_cases {ending : Ending α} {task : Task.Tracked}
    {deeds : List (Nat × Task.Event)} (hc : Course ids n k name ending task none deeds) :
    task = .fresh name ∨ task = .running (ids n) := by
  cases hc with
  | fresh => exact Or.inl rfl
  | running => exact Or.inr rfl

theorem Handed.deed {ending : Ending α} {deeds : List (Nat × Task.Event)} {op : Operation α}
    (hh : h.Handed n k name ending deeds op) (ht : Turn h e h') (hs : e.source = .operation n) :
    Deed n k name h h' (e.deed? n) := by
  obtain ⟨r, hr⟩ := Option.isSome_iff_exists.1 hh.present
  have hafter : ∀ {act}, e.use? = some (k, ⟨h.now, act⟩) →
      h'.registryAt? k = some (r.after ⟨h.now, act⟩) := fun hu => by
    rw [ht.registry, hr, Option.map_some, Event.effect, hu]
    exact congrArg some (if_pos rfl)
  rcases ht.operation hh.operation with
    ⟨-, hne⟩ | ⟨hout, ⟨rfl, rfl⟩ | ⟨h₁, exit, outcome, hl, rfl, rfl⟩⟩
  · exact absurd hs hne
  · have hr' := hafter (hh.uses hr _)
    rw [Event.deed?_self, hh.uses hr]
    rcases (hout ▸ hh.course).task_cases with hfresh | hgo
    · rw [hfresh] at hr' ⊢
      exact .started hr hr' (r.get?_start (ids n) name h.now)
    · rw [hgo]
      refine .none ((platform_enter h n op).trans ?_)
      refine Platform.fst_withRegistry_same (x := .running (ids n)) fun r => ?_
      rw [entry, hgo]
      rfl
  · have hr' := hafter (hh.uses hr _)
    rw [Event.deed?_self, hh.uses hr]
    rcases (hout ▸ hh.course).task_cases with hfresh | hgo
    · cases hl with
      | resolved hrun => cases hfresh.symm.trans hrun
      | dropped =>
          rw [hfresh]
          refine .none ((platform_leave h n op _ _).trans ?_)
          refine Platform.fst_withRegistry_same (x := .finished) fun r => ?_
          rw [departure, hfresh]
          rfl
    · rw [hgo] at hr' ⊢
      obtain ⟨happlied, hget⟩ := get?_attempt r (ids n) exit.outcome h.now
      exact .attempted hr hr' happlied hget

/-! ### Operations keep to their own tasks -/

/-- Every operation that runs uses its own task. -/
def OwnTasks (h : Host ids α) : Prop :=
  ∀ n op id, h.operations[n]? = some op → op.task = .running id → id = ids n

/-- What an operation runs once it was polled. -/
theorem running_of_enter {t : Task.Tracked} {r : Task.Registry} {own id : String} {now : Tick}
    (hgo : (t.enter r own now).1 = .running id) : id = own ∨ t = .running id := by
  cases t with
  | fresh =>
      cases hgo
      exact Or.inl rfl
  | running =>
      cases hgo
      exact Or.inr rfl
  | finished => cases hgo

/-- An operation that was left runs nothing. -/
theorem finished_of_leave (t : Task.Tracked) (r : Task.Registry) (exit : Task.Tracked.Exit)
    (now : Tick) : (t.leave r exit now).1 = .finished := by
  cases t <;> rfl

theorem Step.ownTasks (hst : Step h e h') (ho : h.OwnTasks) : h'.OwnTasks := by
  have hsame : h'.operations = h.operations → h'.OwnTasks := fun heq m op id hop =>
    ho m op id (heq ▸ hop)
  cases hst with
  | call | pass => exact ho
  | track =>
      intro m op id hop hgo
      rcases entry_concat hop with ⟨-, rfl⟩ | hop
      · cases hgo
      · exact ho m op id hop hgo
  | @enter _ j op₀ hop₀ =>
      intro m op id hop hgo
      rw [operations_enter] at hop
      rcases entry_set hop with ⟨rfl, rfl⟩ | ⟨-, hop⟩
      · cases hr : h.registryAt? op₀.registry with
        | none =>
            rw [hr] at hgo
            exact ho m op₀ id hop₀ hgo
        | some r =>
            rw [hr] at hgo
            exact (running_of_enter hgo).elim (fun heq => heq) (ho m op₀ id hop₀)
      · exact ho m op id hop hgo
  | @leave _ j op₀ hop₀ exit outcome =>
      intro m op id hop hgo
      rw [operations_leave] at hop
      rcases entry_set hop with ⟨rfl, rfl⟩ | ⟨-, hop⟩
      · cases hr : h.registryAt? op₀.registry with
        | none =>
            rw [hr] at hgo
            exact ho m op₀ id hop₀ hgo
        | some r =>
            rw [hr] at hgo
            cases (finished_of_leave op₀.task r exit h.now).symm.trans hgo
      · exact ho m op id hop hgo
  | sweep _ hs =>
      rw [runSweep_eq hs]
      exact ho
  | monitor _ hm =>
      obtain ⟨_, -, he⟩ := runMonitor_cases hm
      exact hsame he.operations
  | elsewhere he => exact hsame he.operations

/-- An operation names no task but its own. -/
theorem Step.names_own {m j : Nat} {id : String} (hst : Step h e h') (ho : h.OwnTasks)
    (hs : e.source = .operation m) (hn : e.Names j id) : id = ids m := by
  obtain ⟨use, hu, hnames⟩ := hn
  cases hst with
  | call | track | sweep | monitor | pass | elsewhere => cases hs
  | @enter _ i op hop =>
      cases hs
      obtain ⟨r, -, heq⟩ := Option.map_eq_some_iff.1 hu
      cases heq
      cases htask : op.task with
      | fresh name =>
          rw [htask] at hnames
          rcases hnames with ⟨_, heq⟩ | hattempt
          · cases heq
            rfl
          · cases hattempt
      | running | finished =>
          rw [htask] at hnames
          rcases hnames with ⟨_, heq⟩ | hattempt
          · cases heq
          · cases hattempt
  | @leave _ i op hop exit outcome =>
      cases hs
      obtain ⟨r, -, heq⟩ := Option.map_eq_some_iff.1 hu
      cases heq
      cases htask : op.task with
      | running id₀ =>
          rw [htask] at hnames
          rcases hnames with ⟨_, heq⟩ | hattempt
          · cases heq
          · obtain ⟨⟨o, t⟩, ha⟩ := Option.isSome_iff_exists.1 hattempt
            obtain ⟨-, _, hact⟩ := Task.Event.act_of_attempt? ha
            cases hact
            exact ho _ op _ hop htask
      | fresh | finished =>
          rw [htask] at hnames
          rcases hnames with ⟨_, heq⟩ | hattempt
          · cases heq
          · cases hattempt

theorem Turn.ownTasks (ht : Turn h e h') (ho : h.OwnTasks) : h'.OwnTasks := by
  obtain ⟨h₁, he, hst⟩ := ht.step
  exact hst.ownTasks fun m op id hop => ho m op id (he.operations ▸ hop)

theorem Turn.names_own {m j : Nat} {id : String} (ht : Turn h e h') (ho : h.OwnTasks)
    (hs : e.source = .operation m) (hn : e.Names j id) : id = ids m := by
  obtain ⟨h₁, he, hst⟩ := ht.step
  exact hst.names_own (fun m op id hop => ho m op id (he.operations ▸ hop)) hs hn

/-- **One attempt.**  On a host that gives out distinct ids, and on which operations were only
handed over to run as tracked tasks, one more is, and then there is any run: others use the
registries, sweeps are made, time passes, and operations are polled, come to their end and are
dropped.  What the operation did to its registry is told by what became of it (`Course`): nothing
before it is polled, and if it is dropped before; one start once it was polled; then one attempt to
end the task, as its result says if it has one, which is returned as it is, and as cancelled if it
was dropped.  No other operation names its task.  What it does next is told by the records (`Deed`):
a start inserts one pending record, and an attempt counts exactly if the record is held and pending
then. -/
theorem attempted_once {es₀ : List Event} {delay : Span} {ending : Ending α}
    (hids : Function.Injective ids) (hnone : h₀.operations = []) (hrun₀ : Run Turn h₀ es₀ h₁)
    (hk : (h₁.registryAt? k).isSome = true)
    (hrun : Run Turn (h₁.addOperation k name delay ending) es h) :
    let n := h₁.operations.length
    (∃ op, h.operations[n]? = some op ∧
      Course ids n k name ending op.task op.outcome (es.filterMap (·.deed? n))) ∧
    (∀ e ∈ es, ∀ m j, e.source = .operation m → e.Names j (ids n) → m = n) ∧
    ∀ e h', Turn h e h' → e.source = .operation n → Deed n k name h h' (e.deed? n) := by
  intro n
  obtain ⟨op, hh⟩ := (Handed.new hk name delay ending).run hrun
  refine ⟨⟨op, hh.operation, hh.course⟩, fun e he m j hs hn => ?_, fun e h' ht hs => hh.deed ht hs⟩
  have ho₀ : h₀.OwnTasks := fun m op id hop => by
    rw [hnone] at hop
    cases hop
  have ho₁ := hrun₀.preserves (I := OwnTasks) (fun ht => ht.ownTasks) ho₀
  have ho : (h₁.addOperation k name delay ending).OwnTasks := (Step.track h₁ ..).ownTasks ho₁
  obtain ⟨front, back, rfl⟩ := List.append_of_mem he
  obtain ⟨_, _, hfront, ht, -⟩ := hrun.split_at
  have hown := hfront.preserves (I := OwnTasks) (fun ht => ht.ownTasks) ho
  exact (hids (ht.names_own hown hs hn)).symm

/-- An operation that was polled is overtaken: its task is cancelled by a caller.  It returns its
result, and its attempt does not count. -/
theorem attempted_once_overtaken :
    let p : Platform := .new (.new []) 0 ⟨0, 0, by decide⟩ 7 "" ""
    let h₀ : Host numbered Nat := .new (p.addRegistry 300 60)
    let h₁ := h₀.addOperation 0 "copy" 0 (.value 1)
    let h₂ := h₁.addOperation 0 "job" 5 (.value 7)
    let h₃ := h₂.enter 1 ⟨0, .fresh "job", 5, .value 7, none, none⟩
    let h₄ := { h₃ with platform := (h₃.platform.withRegistry 0 () fun r =>
      ((r.cancel (numbered 1) "stop" h₃.now).1, (), [])).1 }
    let h := (h₄.atTime 5).wakeOperation 1
    Function.Injective numbered ∧
    ∃ es op, Run Turn h₂ es h ∧ h.operations[1]? = some op ∧ op.outcome = some (.value 7) ∧
      Course numbered 1 0 "job" (.value 7) op.task op.outcome (es.filterMap (·.deed? 1)) ∧
      es.filterMap (·.deed? 1) =
        [(0, ⟨0, .started (numbered 1) "job"⟩),
          (0, ⟨5, .attempted (numbered 1) .succeeded false⟩)] := by
  intro p h₀ h₁ h₂ h₃ h₄ h
  have hrun₀ : Run Turn h₀ _ h₁ :=
    .one (.other (.track h₀ 0 "copy" 0 (.value 1)) fun _ => Source.noConfusion)
  have hcall : Step h₃ ⟨.caller, h₃.uses 0 fun r =>
      .attempted (numbered 1) (.cancelled "stop") (r.cancel (numbered 1) "stop" h₃.now).2.1⟩ h₄ :=
    .call h₃ 0 () _ _ fun _ => rfl
  have hrun : Run Turn h₂ _ h :=
    .more (.poll h₂ (show _ = some ⟨0, .fresh "job", 5, .value 7, none, none⟩ from rfl) rfl) <|
    .more (.other hcall fun _ => Source.noConfusion) <|
    .more (.other (.pass h₄ (Nat.zero_le 5)) fun _ => Source.noConfusion) <|
    .one (.resolve (h₄.atTime 5) (n := 1)
      (show _ = some ⟨0, .running (numbered 1), 5, .value 7, some 5, none⟩ from rfl) rfl rfl)
  obtain ⟨⟨op, hop, hcourse⟩, -, -⟩ := attempted_once numbered_injective rfl hrun₀ rfl hrun
  obtain rfl := Option.some.inj (hop.symm.trans rfl)
  refine ⟨numbered_injective, _, _, hrun, hop, rfl, hcourse, ?_⟩
  rfl

end Host
end Vigil
