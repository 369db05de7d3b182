import Vigil.Health.Queue
import Vigil.Proofs.Entries
import Vigil.Proofs.Run

/-!
# Health — a queue and its callers

A queue as its callers and its worker share it.  Jobs are handed in by any thread at any time, also
by the job that is being executed.  The worker takes up the first job that waits, and is done with
it some time later.  A shutdown closes the queue, asks for the worker, which only one call can get
hold of, and waits until the worker is through; any of this may come between any two other steps,
and several calls may be under way.

* `handedIn`: the jobs that came before the queue was closed.  `upToPanic`: the jobs that a worker
  gets to.
* `Step.accounted`: what was executed and what waits is what was handed in, until a job panics.
* `Step.attended`: one shutdown waits for the worker, and no other returns before it has begun to.
* `Sound.settled`: nothing happens to a queue once its worker was waited for.
* `Sound.effort_le`: the worker and the shutdowns that are under way come to rest.
* `run_drain`, `run_shutdown`: draining and shutting down a queue at one go are runs.

**In order, and once** (`executed_in_order`): what is executed of a queue, and what is not.
-/

namespace Vigil.Health.Queue
variable {α : Type} {q : Queue α} {job : Job α}

/-! ### What is done to a queue -/

/-- The queue, which accepts no more jobs. -/
def close (q : Queue α) : Queue α := { q with isOpen := false }

/-- The queue after its worker was waited for. -/
def join (q : Queue α) : Queue α := { q with worker := .joined }

/-- Nothing waits for the worker any more, and nothing will; or it is gone. -/
def Over (q : Queue α) : Prop :=
  q.worker = .panicked ∨ q.worker = .running ∧ q.waiting = [] ∧ q.isOpen = false

theorem close_of_closed (h : q.isOpen = false) : q.close = q := by
  rw [close, ← h]

theorem dispatch_of_closed (h : q.isOpen = false) (job : Job α) : (q.dispatch job).1 = q := by
  rw [dispatch, h]
  rfl

theorem dispatch_of_running (ho : q.isOpen = true) (hw : q.worker = .running) (job : Job α) :
    (q.dispatch job).1 = { q with waiting := q.waiting ++ [job] } := by
  rw [dispatch, ho, hw]
  rfl

theorem dispatch_of_gone (hw : q.worker ≠ .running) (job : Job α) : (q.dispatch job).1 = q := by
  rw [dispatch, if_neg hw]
  split <;> rfl

theorem work_of_running {rest : List (Job α)} (hw : q.worker = .running)
    (hq : q.waiting = job :: rest) :
    q.work = { q with
      executed := q.executed ++ [job]
      waiting := if job.panics then [] else rest
      worker := if job.panics then .panicked else .running } := by
  simp only [work, hw, hq]
  cases job.panics with
  | true => rfl
  | false =>
      rw [← hw]
      rfl

theorem work_of_gone (hw : q.worker ≠ .running) : q.work = q := by
  rw [work]
  split
  next hrun _ => exact absurd hrun hw
  next => rfl

/-! ### Callers and worker -/

/-- Where a shutdown is. -/
inductive Call where
  /-- It has closed the queue. -/
  | closing
  /-- It has got hold of the worker, and waits for it. -/
  | waiting
  | returned
  deriving DecidableEq

/-- A queue, its worker and the shutdowns so far. -/
structure Workshop (α : Type) where
  queue : Queue α
  /-- Whether the worker is at the first of the jobs that wait. -/
  busy : Bool
  /-- Whether a shutdown has got hold of the worker. -/
  claimed : Bool
  calls : List Call

/-- A new queue, which nobody has used. -/
def Workshop.new (name : String) : Workshop α := ⟨{ name }, false, false, []⟩

/-- What callers and the worker do. -/
inductive Event (α : Type) where
  | dispatched (job : Job α)
  /-- The worker takes up the first job that waits. -/
  | began
  | finished (job : Job α)
  /-- A shutdown closes the queue. -/
  | closed
  /-- The queue goes away; its worker goes on until nothing waits. -/
  | dropped
  | claimed (call : Nat)
  | returned (call : Nat)

/-- One thing after another. -/
inductive Step : Workshop α → Event α → Workshop α → Prop where
  | dispatch (s : Workshop α) (job : Job α) :
      Step s (.dispatched job) { s with queue := (s.queue.dispatch job).1 }
  | take (s : Workshop α) (hw : s.queue.worker = .running) (hq : s.queue.waiting ≠ [])
      (hb : s.busy = false) : Step s .began { s with busy := true }
  | finish (s : Workshop α) {job : Job α} {rest : List (Job α)} (hb : s.busy = true)
      (hq : s.queue.waiting = job :: rest) :
      Step s (.finished job) { s with queue := s.queue.work, busy := false }
  | shutdown (s : Workshop α) :
      Step s .closed { s with queue := s.queue.close, calls := s.calls ++ [.closing] }
  | drop (s : Workshop α) : Step s .dropped { s with queue := s.queue.close }
  | claim (s : Workshop α) {k : Nat} (hk : s.calls[k]? = some .closing)
      (hc : s.claimed = false) :
      Step s (.claimed k) { s with claimed := true, calls := s.calls.set k .waiting }
  /-- Another call has got hold of the worker. -/
  | leave (s : Workshop α) {k : Nat} (hk : s.calls[k]? = some .closing) (hc : s.claimed = true) :
      Step s (.returned k) { s with calls := s.calls.set k .returned }
  | join (s : Workshop α) {k : Nat} (hk : s.calls[k]? = some .waiting) (hover : s.queue.Over)
      (hb : s.busy = false) :
      Step s (.returned k) { s with queue := s.queue.join, calls := s.calls.set k .returned }

variable {s s' : Workshop α} {e : Event α} {es es' : List (Event α)}

namespace Event

/-- The job that was handed in. -/
def job? : Event α → Option (Job α)
  | .dispatched job => some job
  | _ => none

/-- The job that was executed. -/
def finished? : Event α → Option (Job α)
  | .finished job => some job
  | _ => none

/-- No job is accepted from then on. -/
def closes : Event α → Bool
  | .closed | .dropped => true
  | _ => false

/-- Something that the worker does, or a shutdown that is under way. -/
def isOwn : Event α → Bool
  | .began | .finished _ | .claimed _ | .returned _ => true
  | .dispatched _ | .closed | .dropped => false

end Event

/-! ### What is to be executed -/

/-- The jobs that were handed in before the queue was closed. -/
def handedIn (es : List (Event α)) : List (Job α) :=
  (es.takeWhile (!·.closes)).filterMap Event.job?

/-- The jobs up to the first one that panics, with that one. -/
def upToPanic : List (Job α) → List (Job α)
  | [] => []
  | job :: rest => job :: if job.panics then [] else upToPanic rest

theorem handedIn_concat (es : List (Event α)) (e : Event α) :
    handedIn (es ++ [e]) =
      if es.any (·.closes) then handedIn es else handedIn es ++ e.job?.toList := by
  induction es with
  | nil => cases e <;> rfl
  | cons d es ih =>
      rw [List.cons_append, handedIn, handedIn, List.any_cons]
      cases hd : d.closes with
      | true => simp [hd]
      | false =>
          have hcons : ∀ fs : List (Event α), ((d :: fs).takeWhile (!·.closes)).filterMap
              Event.job? = d.job?.toList ++ handedIn fs := fun fs => by
            rw [List.takeWhile_cons_of_pos (by simp [hd]), List.filterMap_cons, handedIn]
            cases d.job? <;> rfl
          rw [hcons, hcons, ih, Bool.false_or, List.append_assoc, apply_ite (d.job?.toList ++ ·)]

/-- Nothing is accepted once the queue is closed. -/
theorem handedIn_closed (es fs : List (Event α)) :
    handedIn (es ++ .closed :: fs) = handedIn es := by
  induction es with
  | nil => rfl
  | cons e es ih =>
      simp only [handedIn, List.cons_append, List.takeWhile_cons] at ih ⊢
      cases e.closes with
      | true => rfl
      | false => simp [List.filterMap_cons, ih]

theorem upToPanic_append (jobs more : List (Job α)) :
    upToPanic (jobs ++ more) =
      if jobs.any (·.panics) then upToPanic jobs else jobs ++ upToPanic more := by
  induction jobs with
  | nil => rfl
  | cons job rest ih =>
      rw [List.cons_append, upToPanic, upToPanic, List.any_cons, ih]
      cases job.panics with
      | true => rfl
      | false => rw [Bool.false_or, if_neg Bool.false_ne_true, if_neg Bool.false_ne_true,
          apply_ite (job :: ·), List.cons_append]

theorem upToPanic_of_none {jobs : List (Job α)} (h : jobs.any (·.panics) = false) :
    upToPanic jobs = jobs := by
  have happend := upToPanic_append jobs []
  rwa [List.append_nil, h, if_neg Bool.false_ne_true, upToPanic, List.append_nil] at happend

/-! ### The jobs -/

theorem Step.isOpen (h : Step s e s') :
    s'.queue.isOpen = (s.queue.isOpen && !e.closes) := by
  have hsame : ∀ b : Bool, b = (b && !false) := fun b => (Bool.and_true b).symm
  cases h with
  | dispatch job =>
      cases ho : s.queue.isOpen with
      | false => simpa [dispatch_of_closed ho] using ho
      | true =>
          by_cases hw : s.queue.worker = .running
          · rw [dispatch_of_running ho hw]
            exact ho
          · rw [dispatch_of_gone hw]
            exact ho
  | finish hb hq =>
      rw [work]
      split
      next => split <;> exact hsame _
      next => exact hsame _
  | shutdown | drop => exact (Bool.and_false _).symm
  | take | claim | leave | join => exact hsame _

/-- The jobs that were handed in and accepted, what was executed of them and what waits. -/
structure Accounted (handed : List (Job α)) (s : Workshop α) : Prop where
  busy : s.busy = true → s.queue.worker = .running ∧ s.queue.waiting ≠ []
  running : s.queue.worker = .running →
    s.queue.executed ++ s.queue.waiting = handed ∧ s.queue.executed.any (·.panics) = false
  gone : s.queue.worker ≠ .running →
    s.queue.waiting = [] ∧ s.queue.executed = upToPanic handed ∧
      (s.queue.isOpen = true → handed.any (·.panics) = true)

namespace Accounted
variable {handed : List (Job α)}

theorem new (name : String) : Accounted [] (Workshop.new name : Workshop α) :=
  ⟨nofun, fun _ => ⟨rfl, rfl⟩, fun h => absurd rfl h⟩

theorem dispatch (h : Accounted handed s) (job : Job α) :
    Accounted (if s.queue.isOpen then handed ++ [job] else handed)
      { s with queue := (s.queue.dispatch job).1 } := by
  cases ho : s.queue.isOpen with
  | false =>
      rw [dispatch_of_closed ho]
      exact h
  | true =>
      by_cases hw : s.queue.worker = .running
      · obtain ⟨happend, hpanics⟩ := h.running hw
        rw [dispatch_of_running ho hw]
        refine ⟨fun _ => ⟨hw, ?_⟩, fun _ => ⟨?_, hpanics⟩, fun hgone => absurd hw hgone⟩
        · exact List.append_ne_nil_of_right_ne_nil _ (List.cons_ne_nil _ _)
        · rw [if_pos rfl, ← happend, List.append_assoc]
      · obtain ⟨hwaiting, hexecuted, hpanics⟩ := h.gone hw
        rw [dispatch_of_gone hw]
        refine ⟨h.busy, fun hrun => absurd hrun hw, fun _ => ⟨hwaiting, ?_, fun _ => ?_⟩⟩
        · -- A job has panicked, and what is handed in behind it is not executed.
          rw [if_pos rfl, upToPanic_append, hpanics ho, if_pos rfl]
          exact hexecuted
        · rw [if_pos rfl, List.any_append, hpanics ho]
          rfl

theorem finish (h : Accounted handed s) {rest : List (Job α)} (hb : s.busy = true)
    (hq : s.queue.waiting = job :: rest) :
    Accounted handed { s with queue := s.queue.work, busy := false } := by
  have hw := (h.busy hb).1
  obtain ⟨happend, hnone⟩ := h.running hw
  rw [hq] at happend
  rw [work_of_running hw hq]
  cases hp : job.panics with
  | false =>
      refine ⟨nofun, fun _ => ⟨?_, ?_⟩, fun hgone => absurd rfl hgone⟩
      · simpa using happend
      · simpa [hp] using hnone
  | true =>
      refine ⟨nofun, nofun, fun _ => ⟨rfl, ?_, fun _ => ?_⟩⟩
      · rw [← happend, upToPanic_append, hnone, upToPanic, hp]
        rfl
      · simp [← happend, hp]

/-- The worker was waited for. -/
theorem join (h : Accounted handed s) (hover : s.queue.Over) (hb : s.busy = false)
    (hclosed : s.queue.isOpen = false) (calls : List Call) :
    Accounted handed { s with queue := s.queue.join, calls } := by
  refine ⟨fun hbusy => absurd (hb.symm.trans hbusy) Bool.false_ne_true, nofun, fun _ => ?_⟩
  rcases hover with hpanicked | ⟨hrun, hwaiting, -⟩
  · exact h.gone (by rw [hpanicked]; exact Worker.noConfusion)
  · obtain ⟨happend, hnone⟩ := h.running hrun
    rw [hwaiting, List.append_nil] at happend
    refine ⟨hwaiting, ?_, fun ho => absurd (hclosed.symm.trans ho) Bool.false_ne_true⟩
    rw [← happend, upToPanic_of_none hnone]
    rfl

/-- Where nothing more is to be done, all jobs up to a panic were executed. -/
theorem executed_eq (h : Accounted handed s) (hrest : s.queue.worker = .running →
    s.queue.waiting = []) : s.queue.executed = upToPanic handed := by
  by_cases hw : s.queue.worker = .running
  · obtain ⟨happend, hnone⟩ := h.running hw
    rw [hrest hw, List.append_nil] at happend
    rw [← happend, upToPanic_of_none hnone]
  · exact (h.gone hw).2.1

theorem executed_prefix (h : Accounted handed s) : s.queue.executed <+: upToPanic handed := by
  by_cases hw : s.queue.worker = .running
  · obtain ⟨happend, hnone⟩ := h.running hw
    rw [← happend, upToPanic_append, if_neg (by rw [hnone]; exact Bool.false_ne_true)]
    exact List.prefix_append _ _
  · exact ⟨[], by rw [(h.gone hw).2.1, List.append_nil]⟩

end Accounted

theorem Step.accounted {handed : List (Job α)} (h : Step s e s') (hs : Accounted handed s)
    (hclosed : s.calls ≠ [] → s.queue.isOpen = false) :
    Accounted (if s.queue.isOpen then handed ++ e.job?.toList else handed) s' := by
  have hsame {t : Workshop α} (ht : Accounted handed t) :
      Accounted (if s.queue.isOpen then handed ++ [] else handed) t := by
    rwa [List.append_nil, ite_self]
  cases h with
  | dispatch job => exact hs.dispatch job
  | take hw hq hb => exact hsame ⟨fun _ => ⟨hw, hq⟩, hs.running, hs.gone⟩
  | finish hb hq => exact hsame (hs.finish hb hq)
  | shutdown | drop =>
      refine hsame ⟨hs.busy, hs.running, fun hw => ?_⟩
      obtain ⟨hwaiting, hexecuted, -⟩ := hs.gone hw
      exact ⟨hwaiting, hexecuted, nofun⟩
  | claim | leave => exact hsame ⟨hs.busy, hs.running, hs.gone⟩
  | join hk hover hb =>
      exact hsame (hs.join hover hb (hclosed (List.ne_nil_of_mem (List.mem_of_getElem? hk))) _)

theorem Step.executed (h : Step s e s') (hbusy : s.busy = true → s.queue.worker = .running) :
    s'.queue.executed = s.queue.executed ++ e.finished?.toList := by
  have hsame : s.queue.executed = s.queue.executed ++ [] := (List.append_nil _).symm
  cases h with
  | dispatch job =>
      rw [Queue.dispatch]
      split
      next => exact hsame
      next => split <;> exact hsame
  | finish hb hq =>
      rw [work_of_running (hbusy hb) hq]
      rfl
  | take | shutdown | drop | claim | leave | join => exact hsame

/-! ### The shutdowns -/

/-- At most one shutdown waits for the worker, and none returns before one has got hold of it. -/
structure Attended (s : Workshop α) : Prop where
  closed : s.calls ≠ [] ∨ s.queue.worker = .joined → s.queue.isOpen = false
  unclaimed : s.claimed = false →
    s.queue.worker ≠ .joined ∧ ∀ (k : Nat) (c : Call), s.calls[k]? = some c → c = .closing
  claimed : s.claimed = true →
    s.queue.worker = .joined ∨ ∃ k : Nat, s.calls[k]? = some Call.waiting
  waiting : ∀ k : Nat, s.calls[k]? = some Call.waiting →
    s.queue.worker ≠ .joined ∧ ∀ j : Nat, s.calls[j]? = some Call.waiting → j = k

namespace Attended

theorem new (name : String) : Attended (Workshop.new name : Workshop α) :=
  ⟨fun h => absurd h (by simp [Workshop.new]), fun _ => ⟨Worker.noConfusion, nofun⟩, nofun, nofun⟩

/-- Something happens to the queue, and the worker is not waited for. -/
theorem queue (h : Attended s) {q : Queue α} (busy : Bool)
    (hworker : q.worker = .joined ↔ s.queue.worker = .joined)
    (hopen : s.queue.isOpen = false → q.isOpen = false) :
    Attended { s with queue := q, busy } := by
  refine ⟨fun hc => hopen (h.closed (hc.imp_right hworker.1)), ?_, ?_, ?_⟩
  · simpa only [hworker, ne_eq] using h.unclaimed
  · simpa only [hworker] using h.claimed
  · simpa only [hworker, ne_eq] using h.waiting

theorem shutdown (h : Attended s) :
    Attended { s with queue := s.queue.close, calls := s.calls ++ [.closing] } := by
  refine ⟨fun _ => rfl, fun hc => ⟨(h.unclaimed hc).1, fun k c hk => ?_⟩, fun hc => ?_,
    fun k hk => ?_⟩
  · rcases entry_concat hk with ⟨-, rfl⟩ | hk
    · rfl
    · exact (h.unclaimed hc).2 k c hk
  · refine (h.claimed hc).imp_right fun ⟨k, hk⟩ => ⟨k, ?_⟩
    rw [List.getElem?_append_left (List.getElem?_eq_some_iff.1 hk).1]
    exact hk
  · have hbefore {k : Nat} (hk : (s.calls ++ [Call.closing])[k]? = some .waiting) :
        s.calls[k]? = some .waiting :=
      (entry_concat hk).resolve_left fun heq => Call.noConfusion heq.2
    exact ⟨(h.waiting k (hbefore hk)).1, fun j hj => (h.waiting k (hbefore hk)).2 j (hbefore hj)⟩

theorem claim (h : Attended s) {k : Nat} (hk : s.calls[k]? = some Call.closing)
    (hc : s.claimed = false) :
    Attended { s with claimed := true, calls := s.calls.set k .waiting } := by
  obtain ⟨hworker, hclosing⟩ := h.unclaimed hc
  have honly {j : Nat} (hj : (s.calls.set k Call.waiting)[j]? = some .waiting) : j = k := by
    rcases entry_set hj with ⟨rfl, -⟩ | ⟨-, hj⟩
    · rfl
    · exact Call.noConfusion (hclosing j _ hj)
  refine ⟨fun _ => h.closed (.inl (List.ne_nil_of_mem (List.mem_of_getElem? hk))), nofun,
    fun _ => .inr ⟨k, List.getElem?_set_self (List.getElem?_eq_some_iff.1 hk).1⟩,
    fun j hj => ⟨hworker, fun i hi => (honly hi).trans (honly hj).symm⟩⟩

theorem leave (h : Attended s) {k : Nat} (hk : s.calls[k]? = some Call.closing)
    (hc : s.claimed = true) : Attended { s with calls := s.calls.set k .returned } := by
  have hbefore {j : Nat} (hj : (s.calls.set k Call.returned)[j]? = some .waiting) :
      s.calls[j]? = some .waiting :=
    ((entry_set hj).resolve_left fun heq => Call.noConfusion heq.2).2
  refine ⟨fun _ => h.closed (.inl (List.ne_nil_of_mem (List.mem_of_getElem? hk))),
    fun hc' => absurd (hc.symm.trans hc') Bool.noConfusion, fun _ => ?_,
    fun j hj => ⟨(h.waiting j (hbefore hj)).1,
      fun i hi => (h.waiting j (hbefore hj)).2 i (hbefore hi)⟩⟩
  refine (h.claimed hc).imp_right fun ⟨j, hj⟩ => ⟨j, ?_⟩
  have hne : k ≠ j := by
    rintro rfl
    exact Call.noConfusion (Option.some.inj (hk.symm.trans hj))
  rw [List.getElem?_set_ne hne]
  exact hj

theorem join (h : Attended s) {k : Nat} (hk : s.calls[k]? = some Call.waiting) :
    Attended { s with queue := s.queue.join, calls := s.calls.set k .returned } := by
  have hclaimed : s.claimed = true := Bool.not_eq_false _ ▸ fun hc =>
    Call.noConfusion ((h.unclaimed hc).2 k _ hk)
  refine ⟨fun _ => h.closed (.inl (List.ne_nil_of_mem (List.mem_of_getElem? hk))),
    fun hc => absurd (hclaimed.symm.trans hc) Bool.noConfusion, fun _ => .inl rfl, fun j hj => ?_⟩
  -- The call that has returned was the only one that waited.
  rcases entry_set hj with ⟨-, heq⟩ | ⟨hne, hj⟩
  · exact Call.noConfusion heq
  · exact absurd ((h.waiting k hk).2 j hj) hne

/-- A shutdown has returned and none waits for the worker, so it was waited for. -/
theorem joined (h : Attended s) (hret : Call.returned ∈ s.calls) (hnone : Call.waiting ∉ s.calls) :
    s.queue.worker = .joined := by
  obtain ⟨k, hk⟩ := List.mem_iff_getElem?.1 hret
  cases hc : s.claimed with
  | false => exact Call.noConfusion ((h.unclaimed hc).2 k _ hk)
  | true =>
      exact (h.claimed hc).resolve_right fun ⟨j, hj⟩ => hnone (List.mem_of_getElem? hj)

end Attended

theorem Step.attended (h : Step s e s') (hs : Attended s)
    (hbusy : s.busy = true → s.queue.worker = .running) : Attended s' := by
  have hopen (hclosed : s.queue.isOpen = false) : s'.queue.isOpen = false := by
    rw [h.isOpen, hclosed, Bool.false_and]
  cases h with
  | dispatch job =>
      refine hs.queue s.busy ?_ hopen
      rw [Queue.dispatch]
      split
      next => exact Iff.rfl
      next => split <;> exact Iff.rfl
  | take => exact hs.queue true Iff.rfl id
  | finish hb hq =>
      refine hs.queue false ?_ hopen
      rw [work_of_running (hbusy hb) hq, hbusy hb]
      cases Job.panics _ <;> simp
  | shutdown => exact hs.shutdown
  | drop => exact hs.queue s.busy Iff.rfl fun _ => rfl
  | claim hk hc => exact hs.claim hk hc
  | leave hk hc => exact hs.leave hk hc
  | join hk => exact hs.join hk

/-! ### What has happened -/

/-- A queue and its callers after `es`. -/
structure Sound (es : List (Event α)) (s : Workshop α) : Prop where
  accounted : Accounted (handedIn es) s
  attended : Attended s
  executed : s.queue.executed = es.filterMap Event.finished?
  isOpen : s.queue.isOpen = !es.any (·.closes)

theorem Step.sound (h : Step s e s') (hs : Sound es s) : Sound (es ++ [e]) s' where
  accounted := by
    have haccounted := h.accounted hs.accounted fun hc => hs.attended.closed (.inl hc)
    rw [hs.isOpen] at haccounted
    rw [handedIn_concat]
    cases hany : es.any (·.closes) <;> simpa [hany] using haccounted
  attended := h.attended hs.attended fun hb => (hs.accounted.busy hb).1
  executed := by
    rw [h.executed fun hb => (hs.accounted.busy hb).1, hs.executed, List.filterMap_append]
    cases e <;> rfl
  isOpen := by
    rw [h.isOpen, hs.isOpen, List.any_append, Bool.not_or, List.any_cons, List.any_nil,
      Bool.or_false]

theorem Sound.new (name : String) : Sound [] (Workshop.new name : Workshop α) :=
  ⟨.new name, .new name, rfl, rfl⟩

theorem Sound.after (hs : Sound es s) (h : Run Step s es' s') : Sound (es ++ es') s' :=
  h.history (I := fun fs => Sound (es ++ fs)) (by rwa [List.append_nil]) fun hs h => by
    rw [← List.append_assoc]
    exact h.sound hs

/-- Once its worker was waited for, nothing happens to the queue. -/
theorem Step.settled (h : Step s e s') (hs : Sound es s) (hj : s.queue.worker = .joined) :
    s'.queue = s.queue := by
  have hgone : s.queue.worker ≠ .running := by
    rw [hj]
    exact Worker.noConfusion
  have hclosed : s.queue.isOpen = false := hs.attended.closed (.inr hj)
  cases h with
  | dispatch job => exact dispatch_of_gone hgone job
  | take hw => exact absurd hw hgone
  | finish hb => exact absurd (hs.accounted.busy hb).1 hgone
  | shutdown | drop => exact close_of_closed hclosed
  | claim | leave => rfl
  | join hk => exact absurd hj (hs.attended.waiting _ hk).1

theorem Sound.settled (hs : Sound es s) (hj : s.queue.worker = .joined)
    (h : Run Step s es' s') : s'.queue = s.queue := by
  induction h generalizing es with
  | refl => rfl
  | more h _ ih =>
      have hsame := h.settled hs hj
      rw [ih (h.sound hs) (by rwa [hsame]), hsame]

/-! ### Coming to rest -/

/-- How much is left to do for a shutdown. -/
def Call.effort : Call → Nat
  | .closing => 2
  | .waiting => 1
  | .returned => 0

/-- How much is left to do for the worker and the shutdowns. -/
def Workshop.effort (s : Workshop α) : Nat :=
  2 * s.queue.waiting.length + (if s.busy then 0 else 1) + s.calls.foldr (·.effort + ·) 0

/-- Neither the worker nor a shutdown has anything left to do. -/
def Workshop.AtRest (s : Workshop α) : Prop := ∀ e s', Step s e s' → e.isOwn = false

theorem effort_set {calls : List Call} {k : Nat} {c : Call} (d : Call)
    (hk : calls[k]? = some c) :
    (calls.set k d).foldr (·.effort + ·) 0 + c.effort =
      calls.foldr (·.effort + ·) 0 + d.effort := by
  induction calls generalizing k with
  | nil => cases hk
  | cons b calls ih =>
      cases k with
      | zero =>
          obtain rfl : b = c := Option.some.inj hk
          simp only [List.set_cons_zero, List.foldr_cons]
          omega
      | succ k =>
          have hrest := ih hk
          simp only [List.set_cons_succ, List.foldr_cons]
          omega

theorem Step.effort_lt (h : Step s e s') (hs : Sound es s) (hown : e.isOwn = true) :
    s'.effort < s.effort := by
  cases h with
  | dispatch | shutdown | drop => cases hown
  | take hw hq hb => simp [Workshop.effort, hb]
  | finish hb hq =>
      have hshorter : s.queue.work.waiting.length < s.queue.waiting.length := by
        rw [work_of_running (hs.accounted.busy hb).1 hq, hq]
        cases Job.panics _ <;> simp
      simp only [Workshop.effort, hb, if_true, Bool.false_eq_true, if_false]
      omega
  | claim hk =>
      have hset := effort_set .waiting hk
      simp only [Workshop.effort, Call.effort] at hset ⊢
      omega
  | leave hk =>
      have hset := effort_set .returned hk
      simp only [Workshop.effort, Call.effort] at hset ⊢
      omega
  | join hk =>
      have hset := effort_set .returned hk
      simp only [Workshop.effort, Call.effort, Queue.join] at hset ⊢
      omega

theorem Sound.effort_le (hs : Sound es s) (h : Run Step s es' s')
    (hown : ∀ e ∈ es', e.isOwn = true) : es'.length + s'.effort ≤ s.effort := by
  induction h generalizing es with
  | refl => exact Nat.le_of_eq (Nat.zero_add _)
  | more h _ ih =>
      rw [List.forall_mem_cons] at hown
      have hfirst := h.effort_lt hs hown.1
      have hrest := ih (h.sound hs) hown.2
      rw [List.length_cons]
      omega

namespace Workshop.AtRest

theorem not_busy (hr : s.AtRest) (hs : Sound es s) : s.busy = false := by
  cases hb : s.busy with
  | false => rfl
  | true =>
      obtain ⟨job, rest, hq⟩ := List.exists_cons_of_ne_nil (hs.accounted.busy hb).2
      exact Bool.noConfusion (hr _ _ (.finish s hb hq))

/-- The worker is not left with jobs that wait. -/
theorem waiting (hr : s.AtRest) (hs : Sound es s) (hw : s.queue.worker = .running) :
    s.queue.waiting = [] := Decidable.byContradiction fun hq =>
  Bool.noConfusion (hr _ _ (.take s hw hq (hr.not_busy hs)))

theorem returned (hr : s.AtRest) (hs : Sound es s) {c : Call} (hc : c ∈ s.calls) :
    c = .returned := by
  obtain ⟨k, hk⟩ := List.mem_iff_getElem?.1 hc
  cases c with
  | returned => rfl
  | closing =>
      cases hclaimed : s.claimed with
      | false => exact Bool.noConfusion (hr _ _ (.claim s hk hclaimed))
      | true => exact Bool.noConfusion (hr _ _ (.leave s hk hclaimed))
  | waiting =>
      have hover : s.queue.Over := by
        cases hw : s.queue.worker with
        | running =>
            exact .inr ⟨hw, hr.waiting hs hw,
              hs.attended.closed (.inl (List.ne_nil_of_mem hc))⟩
        | panicked => exact .inl hw
        | joined => exact absurd hw (hs.attended.waiting k hk).1
      exact Bool.noConfusion (hr _ _ (.join s hk hover (hr.not_busy hs)))

end Workshop.AtRest

/-! ### All at one go -/

theorem workFor_of_gone (hw : q.worker ≠ .running) (n : Nat) : q.workFor n = q := by
  induction n with
  | zero => rfl
  | succ n ih => rw [workFor, work_of_gone hw, ih]

theorem run_workFor (s : Workshop α) (hb : s.busy = false) (n : Nat) :
    ∃ es, Run Step s es { s with queue := s.queue.workFor n } := by
  induction n generalizing s with
  | zero => exact ⟨[], .refl s⟩
  | succ n ih =>
      by_cases hw : s.queue.worker = .running
      · cases hq : s.queue.waiting with
        | nil =>
            have hsame : s.queue.work = s.queue := by
              rw [work, hq]
              split
              next heq => cases heq
              next => rfl
            rw [workFor, hsame]
            exact ih s hb
        | cons job rest =>
            have htake := Step.take s hw (by rw [hq]; exact List.cons_ne_nil _ _) hb
            have hfinish := Step.finish { s with busy := true } rfl hq
            obtain ⟨es, hrest⟩ := ih { s with queue := s.queue.work, busy := false } rfl
            rw [← hb] at hrest hfinish
            exact ⟨_, .more htake (.more hfinish hrest)⟩
      · rw [workFor_of_gone hw]
        exact ⟨[], .refl s⟩

/-- Draining a queue at one go is a run. -/
theorem run_drain (s : Workshop α) (hb : s.busy = false) :
    ∃ es, Run Step s es { s with queue := s.queue.drain } := run_workFor s hb _

theorem workFor_waiting {n : Nat} (hn : q.waiting.length ≤ n)
    (hgone : q.worker ≠ .running → q.waiting = []) : (q.workFor n).waiting = [] := by
  induction n generalizing q with
  | zero => exact List.length_eq_zero_iff.1 (Nat.le_zero.1 hn)
  | succ n ih =>
      by_cases hw : q.worker = .running
      · rw [workFor]
        cases hq : q.waiting with
        | nil =>
            refine ih ?_ ?_ <;> simp [work, hq]
        | cons job rest =>
            rw [hq, List.length_cons] at hn
            rw [work_of_running hw hq]
            cases hp : job.panics with
            | true => exact ih (Nat.zero_le n) fun _ => rfl
            | false => exact ih (Nat.le_of_succ_le_succ hn) fun h => absurd rfl h
      · rw [workFor_of_gone hw]
        exact hgone hw

/-- A shutdown gets hold of the worker, for which it does not have to wait. -/
theorem run_join {k : Nat} (hk : s.calls[k]? = some Call.closing) (hc : s.claimed = false)
    (hover : s.queue.Over) (hb : s.busy = false) :
    Run Step s [.claimed k, .returned k]
      { s with queue := s.queue.join, claimed := true, calls := s.calls.set k .returned } := by
  have hk' : (s.calls.set k Call.waiting)[k]? = some .waiting :=
    List.getElem?_set_self (List.getElem?_eq_some_iff.1 hk).1
  have hjoin := Step.join { s with claimed := true, calls := s.calls.set k .waiting } hk' hover hb
  rw [List.set_set] at hjoin
  exact .more (.claim s hk hc) (.one hjoin)

theorem shutdown_of_over (h : q.close.drain.Over) : q.shutdown.1 = q.close.drain.join := by
  rcases h with hw | ⟨hw, -, -⟩ <;> rw [shutdown, ← close, hw] <;> rfl

/-- A queue whose worker was waited for is not changed by a further shutdown. -/
theorem shutdown_of_joined (hw : q.worker = .joined) (ho : q.isOpen = false) :
    q.shutdown.1 = q := by
  have hclosed := close_of_closed ho
  rw [close] at hclosed
  rw [shutdown, hclosed, drain, workFor_of_gone (by rw [hw]; exact Worker.noConfusion), hw]

/-- The worker of a closed queue is through with it when it was drained, unless somebody has got
hold of it. -/
theorem Sound.over_drain (hs : Sound es s) (hb : s.busy = false) (hc : s.claimed = false)
    (ho : s.queue.isOpen = false) : s.queue.drain.Over := by
  obtain ⟨fs, hdrain⟩ := run_drain s hb
  have hdrained := hs.after hdrain
  have hwaiting : s.queue.drain.waiting = [] :=
    workFor_waiting (Nat.le_refl _) fun hw => (hs.accounted.gone hw).1
  have hclosed : s.queue.drain.isOpen = false := by
    have hopen := hdrained.isOpen
    rw [hs.isOpen, Bool.not_eq_false'] at ho
    rw [hopen, List.any_append, ho]
    rfl
  cases hw : s.queue.drain.worker with
  | running => exact .inr ⟨hw, hwaiting, hclosed⟩
  | panicked => exact .inl hw
  | joined => exact absurd hw (hdrained.attended.unclaimed hc).1

/-- Shutting a queue down at one go is a run. -/
theorem run_shutdown (hs : Sound es s) (hb : s.busy = false) (hnone : Call.waiting ∉ s.calls) :
    ∃ fs, Run Step s (.closed :: fs) { s with
      queue := s.queue.shutdown.1, claimed := true, calls := s.calls ++ [.returned] } := by
  have hclose := Step.shutdown s
  have hset (c : Call) : (s.calls ++ [Call.closing]).set s.calls.length c = s.calls ++ [c] := by
    rw [List.set_append_right _ _ (Nat.le_refl _), Nat.sub_self]
    rfl
  have hlast : (s.calls ++ [Call.closing])[s.calls.length]? = some .closing :=
    List.getElem?_concat_length ..
  cases hc : s.claimed with
  | true =>
      have hj : s.queue.worker = .joined :=
        (hs.attended.claimed hc).resolve_right fun ⟨k, hk⟩ => hnone (List.mem_of_getElem? hk)
      have hclosed := hs.attended.closed (.inr hj)
      have hleave := Step.leave { s with queue := s.queue.close, calls := s.calls ++ [.closing] }
        hlast hc
      rw [hset, close_of_closed hclosed] at hleave
      rw [close_of_closed hclosed] at hclose
      rw [shutdown_of_joined hj hclosed, ← hc]
      exact ⟨_, .more hclose (.one hleave)⟩
  | false =>
      let closed : Workshop α :=
        { s with queue := s.queue.close, calls := s.calls ++ [.closing] }
      obtain ⟨fs, hdrain⟩ := run_drain closed hb
      have hover : s.queue.close.drain.Over := (hclose.sound hs).over_drain hb hc rfl
      have hjoin := run_join (s := { closed with queue := s.queue.close.drain }) hlast hc hover hb
      rw [hset] at hjoin
      rw [shutdown_of_over hover]
      exact ⟨_, .more hclose (hdrain.trans hjoin)⟩

/-! ### In order, and once -/

/-- **In order, and once.**  The jobs are executed one after the other: those that were handed in
before the queue was closed, in that order, each of them once, up to and with the first one that
panics.  The worker and the shutdowns come to rest after so many steps at the most, and all those
jobs were executed then.  They were executed when a shutdown has returned and none waits for the
worker, and from then on nothing happens to the queue; a further shutdown changes nothing before
that either.  It is the same for a shutdown at one go. -/
theorem executed_in_order {name : String} (h : Run Step (Workshop.new name : Workshop α) es s) :
    s.queue.executed = es.filterMap Event.finished? ∧
      s.queue.executed <+: upToPanic (handedIn es) ∧
      (∀ es' s', Run Step s es' s' → (∀ e ∈ es', e.isOwn = true) → es'.length ≤ s.effort) ∧
      (s.AtRest →
        s.queue.executed = upToPanic (handedIn es) ∧ ∀ c ∈ s.calls, c = .returned) ∧
      (.returned ∈ s.calls → .waiting ∉ s.calls →
        s.queue.executed = upToPanic (handedIn es) ∧
          ∀ es' s', Run Step s es' s' → s'.queue = s.queue) ∧
      (s.calls ≠ [] → s.queue.close = s.queue) ∧
      (s.busy = false → .waiting ∉ s.calls →
        s.queue.shutdown.1.executed = upToPanic (handedIn es)) := by
  have hs : Sound es s := (Sound.new name).after h
  have hreturned {fs : List (Event α)} {t : Workshop α} (ht : Sound fs t)
      (hret : Call.returned ∈ t.calls) (hnone : Call.waiting ∉ t.calls) :
      t.queue.executed = upToPanic (handedIn fs) := by
    have hj := ht.attended.joined hret hnone
    exact ht.accounted.executed_eq fun hw => Worker.noConfusion (hj.symm.trans hw)
  refine ⟨hs.executed, hs.accounted.executed_prefix, fun es' s' h' hown => ?_, fun hr => ?_,
    fun hret hnone => ⟨hreturned hs hret hnone, fun es' s' h' => ?_⟩, fun hcalls => ?_,
    fun hb hnone => ?_⟩
  · exact Nat.le_of_add_right_le (hs.effort_le h' hown)
  · exact ⟨hs.accounted.executed_eq (hr.waiting hs), fun c hc => hr.returned hs hc⟩
  · exact hs.settled (hs.attended.joined hret hnone) h'
  · exact close_of_closed (hs.attended.closed (.inl hcalls))
  · obtain ⟨fs, hshutdown⟩ := run_shutdown hs hb hnone
    have hexecuted := hreturned (hs.after hshutdown) (by simp) (by simpa using hnone)
    rwa [handedIn_closed] at hexecuted

/-- A shutdown comes while a job is executed, and a job behind it panics.  The job behind that one,
and the one that comes after the shutdown, are not executed. -/
def panicking : List (Event Nat) :=
  [.dispatched (.output [1]), .began, .dispatched .panic, .dispatched (.output [2]), .closed,
    .dispatched (.output [3]), .finished (.output [1]), .claimed 0, .began, .finished .panic,
    .returned 0]

/-- What is left after that. -/
def panicked : Workshop Nat where
  queue :=
    { name := "main", executed := [.output [1], .panic], worker := .joined, isOpen := false }
  busy := false
  claimed := true
  calls := [.returned]

theorem run_panicking : Run Step (.new "main") panicking panicked :=
  .more (.dispatch _ _) <| .more (.take _ rfl (List.cons_ne_nil _ _) rfl) <|
    .more (.dispatch _ _) <| .more (.dispatch _ _) <| .more (.shutdown _) <|
    .more (.dispatch _ _) <| .more (.finish _ rfl rfl) <| .more (.claim _ rfl rfl) <|
    .more (.take _ rfl (List.cons_ne_nil _ _) rfl) <| .more (.finish _ rfl rfl) <|
    .more (.join _ rfl (.inl rfl) rfl) (.refl _)

theorem executed_in_order_panicked :
    upToPanic (handedIn panicking) = [.output [1], .panic] ∧
      panicked.queue.executed = upToPanic (handedIn panicking) ∧
      ∀ es' s', Run Step panicked es' s' → s'.queue = panicked.queue :=
  have h := executed_in_order run_panicking
  ⟨rfl, h.2.2.2.2.1 (by decide) (by decide)⟩

end Vigil.Health.Queue
