import Vigil.Proofs.Host.Time

/-!
# Host — the turns of an operation

A `Step` may leave an operation in any way and at any time.  A `Turn` is a step that keeps to what
futures do: an operation is polled until it is over, it comes to its own end (`Ending.exit`,
`Ending.outcome`), at the earliest once it was polled, or its future is dropped; and it is over
once.

* `turns_startOperation`, `turn_wakeOperation`, `turn_abortOperation`: what a host does with an
  operation are turns.
* `Turn.step`: a turn is a step of the host as it is after a hook has run.
* `Turn.registry`, `Turn.operation`: what becomes of a registry, and of an operation.
-/

namespace Vigil.Host
variable {ids : Nat → String} {α : Type} {h h₁ h' : Host ids α} {n : Nat} {op : Operation α}
  {e : Event}

/-! ### How an operation is left -/

/-- How an operation that is at its end leaves its task. -/
def Ending.exit : Ending α → Task.Tracked.Exit
  | .value _ => .succeeded
  | .error text => .failed text
  | .panic => .abandoned

/-- What becomes of an operation that is at its end. -/
def Ending.outcome : Ending α → Outcome α
  | .value a => .value a
  | .error text => .error text
  | .panic => .panicked

/-- An operation that is at its end is left, after the hook has run if it panics. -/
theorem finish_eq (h : Host ids α) (n : Nat) (op : Operation α) :
    ∃ h₁, h.Elsewhere h₁ ∧ h.finish n op = h₁.leave n op op.ending.exit op.ending.outcome := by
  rw [finish]
  cases op.ending with
  | value | error => exact ⟨h, .refl h, rfl⟩
  | panic => exact ⟨h.panic operationPanic, .panic h _, rfl⟩

/-- In which way an operation may be left, and on which host: it was polled and is at its end, which
a hook may have recorded before, or it is dropped. -/
inductive Leaving (h : Host ids α) (op : Operation α) :
    Host ids α → Task.Tracked.Exit → Outcome α → Prop where
  | resolved {h₁ : Host ids α} {id : String} (hgo : op.task = .running id) (he : h.Elsewhere h₁) :
      Leaving h op h₁ op.ending.exit op.ending.outcome
  | dropped : Leaving h op h .abandoned .aborted

theorem Leaving.elsewhere {exit : Task.Tracked.Exit} {outcome : Outcome α}
    (hl : Leaving h op h₁ exit outcome) : h.Elsewhere h₁ := by
  cases hl with
  | resolved _ he => exact he
  | dropped => exact .refl h

/-! ### Turns -/

/-- A step of a host on which operations behave like futures. -/
inductive Turn : Host ids α → Event → Host ids α → Prop where
  | other {h h' : Host ids α} {e : Event} (hst : Step h e h') (hs : ∀ n, e.source ≠ .operation n) :
      Turn h e h'
  /-- An operation that is not over runs for the first time, or is looked at again. -/
  | poll (h : Host ids α) {n : Nat} {op : Operation α} (hop : h.operations[n]? = some op)
      (hout : op.outcome = none) :
      Turn h ⟨.operation n, h.uses op.registry fun _ => op.task.entering (ids n)⟩ (h.enter n op)
  /-- An operation that was polled comes to its end. -/
  | resolve (h : Host ids α) {n : Nat} {op : Operation α} {id : String}
      (hop : h.operations[n]? = some op) (hout : op.outcome = none) (hgo : op.task = .running id) :
      Turn h ⟨.operation n, h.uses op.registry fun r => op.task.leaving r op.ending.exit h.now⟩
        (h.finish n op)
  /-- The future of an operation that is not over is dropped. -/
  | drop (h : Host ids α) {n : Nat} {op : Operation α} (hop : h.operations[n]? = some op)
      (hout : op.outcome = none) :
      Turn h ⟨.operation n, h.uses op.registry fun r => op.task.leaving r .abandoned h.now⟩
        (h.abortOperation n)

/-- An operation that waits comes to its end when it is woken. -/
theorem turn_wakeOperation {id : String} (hop : h.operations[n]? = some op)
    (hout : op.outcome = none) (hgo : op.task = .running id) :
    ∃ use?, Turn h ⟨.operation n, use?⟩ (h.wakeOperation n) := by
  rw [wakeOperation, hop]
  exact ⟨_, .resolve h hop hout hgo⟩

/-- An operation that is aborted is dropped; if it is over, that does nothing. -/
theorem turn_abortOperation (h : Host ids α) (n : Nat) :
    ∃ e, Turn h e (h.abortOperation n) ∧ e.source.Unasked := by
  have hnothing : h.abortOperation n = h → ∃ e, Turn h e (h.abortOperation n) ∧ e.source.Unasked :=
    fun heq => by
      rw [heq]
      exact ⟨_, .other (.elsewhere (.refl h)) fun _ => Source.noConfusion, trivial⟩
  cases hop : h.operations[n]? with
  | none => exact hnothing (by rw [abortOperation, hop])
  | some op =>
      cases hout : op.outcome with
      | some _ =>
          refine hnothing ?_
          rw [abortOperation, hop]
          simp only [hout, Option.isSome_some, if_true]
      | none => exact ⟨_, .drop h hop hout, trivial⟩

/-- What becomes of an operation that is polled. -/
theorem getElem?_enter (hop : h.operations[n]? = some op) :
    (h.enter n op).operations[n]? = some { op with
      task := (h.registryAt? op.registry).elim op.task fun r => (op.task.enter r (ids n) h.now).1
      wake := if op.delay = 0 then op.wake else some (h.now + op.delay) } := by
  rw [operations_enter, List.getElem?_set_self (List.getElem?_eq_some_iff.1 hop).1]
  rfl

/-- What becomes of an operation that is left. -/
theorem getElem?_leave (hop : h.operations[n]? = some op) (exit : Task.Tracked.Exit)
    (outcome : Outcome α) :
    (h.leave n op exit outcome).operations[n]? = some { op with
      task := (h.registryAt? op.registry).elim op.task fun r => (op.task.leave r exit h.now).1
      wake := none, outcome := some outcome } := by
  rw [operations_leave, List.getElem?_set_self (List.getElem?_eq_some_iff.1 hop).1]
  rfl

/-- A task that is entered runs then, unless it is finished. -/
theorem exists_running_of_enter {t : Task.Tracked} (ht : t ≠ .finished) (r : Task.Registry)
    (own : String) (now : Tick) : ∃ id, (t.enter r own now).1 = .running id := by
  cases t with
  | fresh => exact ⟨own, rfl⟩
  | running id => exact ⟨id, rfl⟩
  | finished => exact absurd rfl ht

/-- An operation that is polled runs its task then. -/
theorem running_enter (hop : h.operations[n]? = some op) (hout : op.outcome = none)
    (hpresent : (h.registryAt? op.registry).isSome = true) (htask : op.task ≠ .finished) :
    ∃ op' id, (h.enter n op).operations[n]? = some op' ∧ op'.outcome = none ∧
      op'.task = .running id := by
  obtain ⟨r, hr⟩ := Option.isSome_iff_exists.1 hpresent
  obtain ⟨id, hgo⟩ := exists_running_of_enter htask r (ids n) h.now
  refine ⟨_, id, getElem?_enter hop, hout, ?_⟩
  rw [hr]
  exact hgo

/-- An operation that is started is polled, and comes to its end then if it does not wait. -/
theorem turns_startOperation (hop : h.operations[n]? = some op) (hout : op.outcome = none)
    (hpresent : (h.registryAt? op.registry).isSome = true) (htask : op.task ≠ .finished) :
    ∃ es, Run Turn h es (h.startOperation n) ∧ ∀ e ∈ es, e.source = .operation n := by
  obtain ⟨op', hop', heq⟩ := startOperation_cases hop hout
  obtain ⟨_, _, hop₁, hout', hgo⟩ := running_enter hop hout hpresent htask
  cases hop'.symm.trans hop₁
  have hpoll := Turn.poll h hop hout
  rw [heq]
  split
  next =>
    refine ⟨_, .more hpoll (.one (.resolve _ hop' hout' hgo)), ?_⟩
    exact List.forall_mem_cons.2 ⟨rfl, List.forall_mem_singleton.2 rfl⟩
  next => exact ⟨_, .one hpoll, List.forall_mem_singleton.2 rfl⟩

/-! ### What a turn comes to -/

theorem Elsewhere.registryAt? (he : h.Elsewhere h₁) (k : Nat) :
    h₁.registryAt? k = h.registryAt? k :=
  congrArg (·[k]?) he.registries

theorem Elsewhere.uses (he : h.Elsewhere h₁) (k : Nat) (act : Task.Registry → Task.Act) :
    h₁.uses k act = h.uses k act := by
  rw [Host.uses, Host.uses, he.now, he.registryAt?]

/-- A turn is a step, after the hook has run if an operation panics. -/
theorem Turn.step (ht : Turn h e h') : ∃ h₁, h.Elsewhere h₁ ∧ Step h₁ e h' := by
  cases ht with
  | other hst => exact ⟨h, .refl h, hst⟩
  | poll hop => exact ⟨h, .refl h, .enter h hop⟩
  | @resolve n op _ hop =>
      obtain ⟨h₁, he, heq⟩ := h.finish_eq n op
      have hleave := Step.leave h₁ (he.operations ▸ hop) op.ending.exit op.ending.outcome
      rw [he.uses, he.now, ← heq] at hleave
      exact ⟨h₁, he, hleave⟩
  | @drop n op hop hout =>
      refine ⟨h, .refl h, ?_⟩
      simp only [abortOperation, hop, hout, Option.isSome_none, Bool.false_eq_true, if_false]
      exact .leave h hop .abandoned .aborted

/-- What becomes of a registry is told by the event alone. -/
theorem Turn.registry (ht : Turn h e h') (k : Nat) :
    h'.registryAt? k = (h.registryAt? k).map (e.effect k) := by
  obtain ⟨h₁, he, hst⟩ := ht.step
  rw [hst.registry, he.registryAt?]

/-- What becomes of an operation: it is left alone, polled or left. -/
theorem Turn.operation (ht : Turn h e h') (hop : h.operations[n]? = some op) :
    h'.operations[n]? = some op ∧ e.source ≠ .operation n ∨
    op.outcome = none ∧
      ((e = ⟨.operation n, h.uses op.registry fun _ => op.task.entering (ids n)⟩ ∧
        h' = h.enter n op) ∨
      ∃ h₁ exit outcome, Leaving h op h₁ exit outcome ∧
        e = ⟨.operation n, h.uses op.registry fun r => op.task.leaving r exit h.now⟩ ∧
        h' = h₁.leave n op exit outcome) := by
  by_cases hs : e.source = .operation n
  · refine Or.inr ?_
    cases ht with
    | other _ hne => exact absurd hs (hne n)
    | poll hop' hout =>
        cases hs
        cases hop.symm.trans hop'
        exact ⟨hout, Or.inl ⟨rfl, rfl⟩⟩
    | resolve hop' hout hgo =>
        cases hs
        cases hop.symm.trans hop'
        obtain ⟨h₁, he, heq⟩ := h.finish_eq n op
        exact ⟨hout, Or.inr ⟨h₁, _, _, .resolved hgo he, rfl, heq⟩⟩
    | drop hop' hout =>
        cases hs
        cases hop.symm.trans hop'
        refine ⟨hout, Or.inr ⟨h, _, _, .dropped, rfl, ?_⟩⟩
        simp only [abortOperation, hop, hout, Option.isSome_none, Bool.false_eq_true, if_false]
  · obtain ⟨h₁, he, hst⟩ := ht.step
    rcases hst.operation (he.operations ▸ hop) with hsame | ⟨rfl, -⟩ | ⟨_, _, rfl, -⟩
    · exact Or.inl hsame
    · exact absurd rfl hs
    · exact absurd rfl hs

end Vigil.Host
