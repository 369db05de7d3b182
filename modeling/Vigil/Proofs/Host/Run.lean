import Vigil.Host.Time
import Vigil.Proofs.Entries
import Vigil.Proofs.Number.Digits
import Vigil.Proofs.Platform.Frame
import Vigil.Proofs.Task.Sweeper

/-!
# Host — what happens on a host

Callers, operations and sweepers use the registries of a host, monitors run their cycles, time
passes, and others do what they like with everything but these (`Elsewhere`).  A `Step` lists what
it comes to for the registries, and who does it (`Event`).  A step does not say when it comes: a
timer may be looked at whenever, and time may pass though a timer is due.

* `Step.registry`: what becomes of a registry is told by the event alone.
* `Step.clock`, `Step.reading`: the clock does not run back, and is read when a registry is used.
* `Step.sweeper`: what becomes of a sweeper and its registry.
* `Step.timing`: what becomes of the cycles of a monitor.
-/

namespace Vigil

namespace Platform
variable {β : Type} (p : Platform) (k : Nat) (default : β)
  (f : Task.Registry → Task.Registry × β × List Notice)

theorem registries_withRegistry (j : Nat) :
    (p.withRegistry k default f).1.registries[j]? =
      p.registries[j]?.map fun r => if j = k then (f r).1 else r := by
  rw [withRegistry]
  split
  next hnone =>
    by_cases hj : j = k
    · rw [hj, hnone]
      rfl
    · simp only [if_neg hj, Option.map_id']
  next r hr =>
    simp only [note]
    by_cases hj : j = k
    · subst hj
      rw [List.getElem?_set_self (List.getElem?_eq_some_iff.1 hr).1, hr, Option.map_some,
        if_pos rfl]
    · rw [List.getElem?_set_ne (Ne.symm hj)]
      simp only [if_neg hj, Option.map_id']

theorem now_withRegistry : (p.withRegistry k default f).1.now = p.now := by
  rw [withRegistry]
  split <;> rfl

theorem snd_withRegistry :
    (p.withRegistry k default f).2 = p.registries[k]?.elim default fun r => (f r).2.1 := by
  rw [withRegistry]
  split
  next hnone => rw [hnone]; rfl
  next r hr => rw [hr]; rfl

end Platform

namespace Host
variable {ids : Nat → String} {α : Type} {h h₀ h₁ h' : Host ids α} {k id : Nat}

/-- Numbers in decimal, as ids. -/
def numbered (n : Nat) : String := String.ofList (Number.decimal n)

theorem numbered_injective : Function.Injective numbered := fun m n h => by
  have hvalue := congrArg Number.ofDigits (String.ofList_injective h)
  rwa [Number.ofDigits_decimal, Number.ofDigits_decimal] at hvalue

/-- The registry of a number. -/
def registryAt? (h : Host ids α) (k : Nat) : Option Task.Registry := h.platform.registries[k]?

/-- What decides when a monitor runs its cycles. -/
def timing (m : Health.Monitor) : Option Ticker × Span := (m.ticker, m.interval)

/-! ### What others leave alone -/

/-- The clock, the registries and what uses them are as before, and so are the times of cycles. -/
structure Elsewhere (h h' : Host ids α) : Prop where
  now : h'.now = h.now
  registries : h'.platform.registries = h.platform.registries
  sweeps : h'.sweeps = h.sweeps
  operations : h'.operations = h.operations
  timings : h'.monitors.map timing = h.monitors.map timing

namespace Elsewhere

theorem refl (h : Host ids α) : h.Elsewhere h := ⟨rfl, rfl, rfl, rfl, rfl⟩

theorem trans (h₀ : h.Elsewhere h₁) (ht : h₁.Elsewhere h') : h.Elsewhere h' where
  now := ht.now.trans h₀.now
  registries := ht.registries.trans h₀.registries
  sweeps := ht.sweeps.trans h₀.sweeps
  operations := ht.operations.trans h₀.operations
  timings := ht.timings.trans h₀.timings

theorem soon (h : Host ids α) (work : List Work) : h.Elsewhere (h.soon work) :=
  ⟨rfl, rfl, rfl, rfl, rfl⟩

theorem soonIf (b : Bool) (h : Host ids α) (work : List Work) :
    h.Elsewhere (if b then h.soon work else h) := by
  cases b
  · exact refl h
  · exact soon h work

theorem note (h : Host ids α) (events : List Notice) : h.Elsewhere (h.note events) :=
  ⟨rfl, rfl, rfl, rfl, rfl⟩

/-- A panic is recorded. -/
theorem panic (h : Host ids α) (message : String) : h.Elsewhere (h.panic message) := by
  have hrecords := Platform.Records.recordAll h.platform
    (h.platform.hook.captures h.platform.observers.contains)
    (h.platform.panicFault (some message) (some mainThread))
  exact ⟨hrecords.now, hrecords.registries, rfl, rfl, rfl⟩

/-- A monitor is changed, but for its cycles. -/
theorem setMonitor {m m' : Health.Monitor} (hm : h.monitor? id = some m)
    (ht : timing m' = timing m) : h.Elsewhere (h.setMonitor id m') := by
  refine ⟨rfl, rfl, rfl, rfl, List.ext_getElem? fun i => ?_⟩
  rw [Host.setMonitor, List.map_set, ht, List.getElem?_set]
  split
  next hi =>
    subst hi
    rw [List.getElem?_map, show h.monitors[id]? = some m from hm]
    simpa using (List.getElem?_eq_some_iff.1 hm).1
  next => rfl

theorem acknowledge (h : Host ids α) (a : Health.Arrival) : h.Elsewhere (h.acknowledge a) := by
  rw [Host.acknowledge]
  split
  next => exact refl h
  next m hm =>
    refine setMonitor hm ?_
    rw [Health.Monitor.acknowledge]
    split <;> rfl

theorem deliver (h : Host ids α) (monitor : Nat) (d : Health.Delivery) :
    h.Elsewhere (h.deliver monitor d) := by
  rw [Host.deliver]
  split
  next => exact ⟨rfl, rfl, rfl, rfl, rfl⟩
  next => exact soon h _
  next => exact acknowledge h _
  next => exact refl h
  next => exact refl h

theorem deliverAll (h : Host ids α) (monitor : Nat) (ds : List Health.Delivery) :
    h.Elsewhere (h.deliverAll monitor ds) := by
  rw [Host.deliverAll]
  induction ds generalizing h with
  | nil => exact refl h
  | cons d ds ih => exact (deliver h monitor d).trans (ih _)

/-- A monitor keeps the times of its cycles. -/
theorem timing (he : h.Elsewhere h') {m : Health.Monitor} (hm : h.monitor? id = some m) :
    ∃ m', h'.monitor? id = some m' ∧ Host.timing m' = Host.timing m := by
  have hget := congrArg (·[id]?) he.timings
  simp only [List.getElem?_map] at hget
  rwa [show h.monitors[id]? = some m from hm, Option.map_some, Option.map_eq_some_iff] at hget

end Elsewhere

/-! ### The cycles of a monitor -/

theorem timing_check (m : Health.Monitor) (c : Health.Check) : timing (m.check c).1 = timing m := by
  rw [Health.Monitor.check]
  split
  next => rfl
  next => split <;> rfl

theorem timing_checkAll (m : Health.Monitor) (cs : List Health.Check) :
    timing (m.checkAll cs).1 = timing m := by
  induction cs generalizing m with
  | nil => rfl
  | cons c cs ih => exact (ih (m.check c).1).trans (timing_check m c)

theorem timing_checkDue (m : Health.Monitor) (now : Tick) : timing (m.checkDue now).1 = timing m :=
  timing_checkAll _ _

theorem timing_cycles (m : Health.Monitor) (now : Tick) (n : Nat) :
    timing (m.cycles now n).1 = timing m := by
  induction n generalizing m with
  | zero => rfl
  | succ n ih => exact ih (m.cycle now).1

/-- A monitor that looks at its ticker keeps to it. -/
theorem timing_cycleDue (m : Health.Monitor) (now : Tick) :
    timing (m.cycleDue now).1 = (m.ticker.map fun t => (t.fire now).2, m.interval) := by
  rw [Health.Monitor.cycleDue]
  split
  next hnone => rw [hnone]; exact congrArg (·, m.interval) hnone
  next t ht => rw [ht]; exact timing_cycles _ _ _

/-! ### Events and steps -/

/-- Who does something. -/
inductive Source where
  | caller
  | operation (id : Nat)
  | sweeper (id : Nat)
  /-- A monitor, which runs so many cycles. -/
  | monitor (id cycles : Nat)
  | clock
  | others

/-- What a step comes to: who does it, and how a registry is used. -/
structure Event where
  source : Source
  use? : Option (Nat × Task.Event)

/-- What becomes of the registry of a number. -/
def Event.effect (e : Event) (k : Nat) (r : Task.Registry) : Task.Registry :=
  match e.use? with
  | some (j, use) => if k = j then r.after use else r
  | none => r

/-- A use of a registry at the time of the host, if there is the registry. -/
def uses (h : Host ids α) (k : Nat) (act : Task.Registry → Task.Act) : Option (Nat × Task.Event) :=
  (h.registryAt? k).map fun r => (k, ⟨h.now, act r⟩)

/-- What an operation does to its registry when it runs for the first time. -/
def entry (h : Host ids α) (id : Nat) (op : Operation α) (r : Task.Registry) :
    Task.Registry × Task.Tracked × List Notice :=
  let (task, r, events) := op.task.enter r (ids id) h.now
  (r, task, events)

/-- What an operation does to its registry when it is over. -/
def departure (h : Host ids α) (op : Operation α) (exit : Task.Tracked.Exit) (r : Task.Registry) :
    Task.Registry × Task.Tracked × List Notice :=
  let (task, r, events) := op.task.leave r exit h.now
  (r, task, events)

/-- An operation runs for the first time, up to where it waits or ends. -/
def enter (h : Host ids α) (id : Nat) (op : Operation α) : Host ids α :=
  let (platform, task) := h.platform.withRegistry op.registry op.task (h.entry id op)
  let h := { h with platform }
  h.setOperation id
    { op with task, wake := if op.delay = 0 then op.wake else some (h.now + op.delay) }

theorem platform_enter (h : Host ids α) (id : Nat) (op : Operation α) :
    (h.enter id op).platform =
      (h.platform.withRegistry op.registry op.task (h.entry id op)).1 := rfl

theorem operations_enter (h : Host ids α) (id : Nat) (op : Operation α) :
    (h.enter id op).operations = h.operations.set id { op with
      task := (h.registryAt? op.registry).elim op.task fun r => (h.entry id op r).2.1
      wake := if op.delay = 0 then op.wake else some (h.now + op.delay) } := by
  have htask := h.platform.snd_withRegistry op.registry op.task (h.entry id op)
  have hnow := h.platform.now_withRegistry op.registry op.task (h.entry id op)
  rw [now, ← hnow]
  exact congrArg (fun task => h.operations.set id { op with task, wake := _ }) htask

theorem platform_leave (h : Host ids α) (id : Nat) (op : Operation α) (exit : Task.Tracked.Exit)
    (outcome : Outcome α) :
    (h.leave id op exit outcome).platform =
      (h.platform.withRegistry op.registry op.task (h.departure op exit)).1 := rfl

theorem operations_leave (h : Host ids α) (id : Nat) (op : Operation α) (exit : Task.Tracked.Exit)
    (outcome : Outcome α) :
    (h.leave id op exit outcome).operations = h.operations.set id { op with
      task := (h.registryAt? op.registry).elim op.task fun r => (h.departure op exit r).2.1
      wake := none, outcome := some outcome } :=
  congrArg (fun task => h.operations.set id { op with
    task, wake := none, outcome := some outcome })
    (h.platform.snd_withRegistry op.registry op.task (h.departure op exit))

/-- How many cycles a monitor runs when it looks at its ticker. -/
def cyclesDue (m : Health.Monitor) (now : Tick) : Nat := m.ticker.elim 0 fun t => (t.fire now).1

/-- A step of a host. -/
inductive Step : Host ids α → Event → Host ids α → Prop where
  /-- A caller uses a registry. -/
  | call {β : Type} (h : Host ids α) (k : Nat) (default : β)
      (f : Task.Registry → Task.Registry × β × List Notice) (act : Task.Registry → Task.Act)
      (hf : ∀ r, (f r).1 = r.after ⟨h.now, act r⟩) :
      Step h ⟨.caller, h.uses k act⟩ { h with platform := (h.platform.withRegistry k default f).1 }
  /-- An operation is handed over to run as a tracked task. -/
  | track (h : Host ids α) (registry : Nat) (name : String) (delay : Span) (ending : Ending α) :
      Step h ⟨.caller, none⟩ (h.addOperation registry name delay ending)
  | enter (h : Host ids α) {id : Nat} {op : Operation α} (hop : h.operations[id]? = some op) :
      Step h ⟨.operation id, h.uses op.registry fun _ => op.task.entering (ids id)⟩
        (h.enter id op)
  /-- An operation has its result, or is abandoned. -/
  | leave (h : Host ids α) {id : Nat} {op : Operation α} (hop : h.operations[id]? = some op)
      (exit : Task.Tracked.Exit) (outcome : Outcome α) :
      Step h ⟨.operation id, h.uses op.registry fun r => op.task.leaving r exit h.now⟩
        (h.leave id op exit outcome)
  /-- A sweeper looks at its ticker. -/
  | sweep (h : Host ids α) {id : Nat} {s : Sweep} (hs : h.sweeps[id]? = some s) :
      Step h ⟨.sweeper id, h.uses s.registry fun _ => s.sweeper.act h.now⟩ (h.runSweep id)
  /-- A monitor looks at its ticker, and checks pings. -/
  | monitor (h : Host ids α) {id : Nat} {m : Health.Monitor} (hm : h.monitor? id = some m) :
      Step h ⟨.monitor id (cyclesDue m h.now), none⟩ (h.runMonitor id)
  | pass (h : Host ids α) {t : Tick} (ht : h.now ≤ t) : Step h ⟨.clock, none⟩ (h.atTime t)
  | elsewhere {h h' : Host ids α} (he : h.Elsewhere h') : Step h ⟨.others, none⟩ h'

variable {e : Event}

/-! ### What a step does to the registries -/

/-- A registry that is used. -/
theorem Event.effect_uses {r : Task.Registry} (hr : h.registryAt? k = some r) (source : Source)
    (act : Task.Registry → Task.Act) :
    Event.effect ⟨source, h.uses k act⟩ k r = r.after ⟨h.now, act r⟩ := by
  rw [effect, uses, hr]
  exact if_pos rfl

/-- Whoever uses a registry has the effect that the event tells. -/
theorem registryAt?_uses {β : Type} {default : β}
    {f : Task.Registry → Task.Registry × β × List Notice} {act : Task.Registry → Task.Act}
    (hf : ∀ r, (f r).1 = r.after ⟨h.now, act r⟩)
    (hp : h'.platform = (h.platform.withRegistry k default f).1) (source : Source) (j : Nat) :
    h'.registryAt? j = (h.registryAt? j).map (Event.effect ⟨source, h.uses k act⟩ j) := by
  rw [registryAt?, hp, Platform.registries_withRegistry, uses]
  cases hj : h.registryAt? j with
  | none => rw [show h.platform.registries[j]? = none from hj]; rfl
  | some r =>
      rw [show h.platform.registries[j]? = some r from hj, Option.map_some, Option.map_some, hf]
      by_cases hjk : j = k
      · subst hjk
        rw [hj]
        rfl
      · rw [if_neg hjk]
        cases h.registryAt? k with
        | none => rfl
        | some r' => rw [Option.map_some, Event.effect]; exact congrArg some (if_neg hjk).symm

/-- A monitor that looks at its ticker runs the cycles that are due; the rest is done elsewhere. -/
theorem runMonitor_cases {m : Health.Monitor} (hm : h.monitor? id = some m) :
    ∃ m', timing m' = (m.ticker.map fun t => (t.fire h.now).2, m.interval) ∧
      (h.setMonitor id m').Elsewhere (h.runMonitor id) := by
  have hcheck : timing (m.checkDue h.now).1 = timing m := timing_checkDue m h.now
  have hcycle := timing_cycleDue (m.checkDue h.now).1 h.now
  refine ⟨((m.checkDue h.now).1.cycleDue h.now).1, ?_, ?_⟩
  · rw [hcycle, show (m.checkDue h.now).1.ticker = m.ticker from congrArg Prod.fst hcheck,
      show (m.checkDue h.now).1.interval = m.interval from congrArg Prod.snd hcheck]
  · rw [runMonitor, hm]
    exact (Elsewhere.note _ _).trans (.deliverAll _ _ _)

/-- A sweeper that looks at its ticker uses its registry once. -/
theorem runSweep_eq {s : Sweep} (hs : h.sweeps[id]? = some s) :
    h.runSweep id =
      let swept := h.platform.withRegistry s.registry s.sweeper fun r =>
        (r.after ⟨h.now, s.sweeper.act h.now⟩, s.sweeper.fired h.now, [])
      { h with platform := swept.1, sweeps := h.sweeps.set id { s with sweeper := swept.2 } } := by
  rw [runSweep, hs]
  simp only [Task.Sweeper.run_eq]

theorem sweeps_runSweep {s : Sweep} (hs : h.sweeps[id]? = some s) :
    (h.runSweep id).sweeps = h.sweeps.set id { s with
      sweeper := (h.registryAt? s.registry).elim s.sweeper fun _ => s.sweeper.fired h.now } := by
  rw [runSweep_eq hs]
  exact congrArg (fun sweeper => h.sweeps.set id { s with sweeper }) (Platform.snd_withRegistry ..)

theorem Step.registry (hst : Step h e h') (k : Nat) :
    h'.registryAt? k = (h.registryAt? k).map (e.effect k) := by
  have hnone : ∀ {h' : Host ids α} (source : Source),
      h'.platform.registries = h.platform.registries →
      h'.registryAt? k = (h.registryAt? k).map (Event.effect ⟨source, none⟩ k) := by
    intro _ source heq
    rw [registryAt?, heq]
    exact Option.map_id'.symm
  cases hst with
  | call _ _ _ _ _ hf => exact registryAt?_uses hf rfl .caller k
  | track => exact hnone .caller rfl
  | @enter _ id op hop =>
      exact registryAt?_uses (fun r => op.task.enter_registry r (ids id) h.now)
        (platform_enter h id op) (.operation id) k
  | @leave _ id op hop exit outcome =>
      exact registryAt?_uses (fun r => op.task.leave_registry r exit h.now)
        (platform_leave h id op exit outcome) (.operation id) k
  | @sweep _ id s hs =>
      rw [runSweep_eq hs]
      exact registryAt?_uses (fun _ => rfl) rfl (.sweeper id) k
  | monitor _ hm =>
      obtain ⟨_, -, he⟩ := runMonitor_cases hm
      exact hnone (.monitor _ _) he.registries
  | pass => exact hnone .clock rfl
  | elsewhere he => exact hnone .others he.registries

/-! ### The clock -/

/-- Only the passage of time moves the clock. -/
theorem Step.now_cases (hst : Step h e h') :
    h'.now = h.now ∨ e = ⟨.clock, none⟩ ∧ h.now ≤ h'.now := by
  cases hst with
  | call => exact Or.inl (Platform.now_withRegistry ..)
  | track => exact Or.inl rfl
  | @enter _ id op hop =>
      exact Or.inl ((congrArg Platform.now (platform_enter h id op)).trans
        (Platform.now_withRegistry ..))
  | @leave _ id op hop exit outcome =>
      exact Or.inl ((congrArg Platform.now (platform_leave h id op exit outcome)).trans
        (Platform.now_withRegistry ..))
  | sweep _ hs =>
      rw [runSweep_eq hs]
      exact Or.inl (Platform.now_withRegistry ..)
  | monitor _ hm =>
      obtain ⟨_, -, he⟩ := runMonitor_cases hm
      exact Or.inl he.now
  | pass _ ht => exact Or.inr ⟨rfl, ht⟩
  | elsewhere he => exact Or.inl he.now

theorem Step.clock (hst : Step h e h') : h.now ≤ h'.now :=
  hst.now_cases.elim (fun h => Nat.le_of_eq h.symm) And.right

/-- A registry is used with the time of the host. -/
theorem Step.reading (hst : Step h e h') {use : Task.Event} (hu : e.use? = some (k, use)) :
    use.reading = h.now := by
  have huses : ∀ {j act}, h.uses j act = some (k, use) → use.reading = h.now := fun hj => by
    obtain ⟨_, -, heq⟩ := Option.map_eq_some_iff.1 hj
    cases heq
    rfl
  cases hst with
  | call | enter | leave | sweep => exact huses hu
  | track | monitor | pass | elsewhere => cases hu

/-- A step is a use of each registry. -/
theorem Step.after (hst : Step h e h') {r : Task.Registry} (hr : h.registryAt? k = some r) :
    ∃ act, h'.registryAt? k = some (r.after ⟨h.now, act⟩) := by
  rw [hst.registry, hr, Option.map_some, Event.effect]
  cases hu : e.use? with
  | none => exact ⟨.idle, rfl⟩
  | some use =>
      obtain ⟨j, t, act⟩ := use
      obtain rfl : t = h.now := hst.reading hu
      by_cases hk : k = j
      · exact ⟨act, congrArg some (if_pos hk)⟩
      · exact ⟨.idle, congrArg some (if_neg hk)⟩

/-! ### Operations -/

/-- What becomes of an operation. -/
theorem Step.operation (hst : Step h e h') {op : Operation α} (hop : h.operations[id]? = some op) :
    h'.operations[id]? = some op ∧ e.source ≠ .operation id ∨
    (e = ⟨.operation id, h.uses op.registry fun _ => op.task.entering (ids id)⟩ ∧
      h' = h.enter id op) ∨
    (∃ exit outcome, e = ⟨.operation id, h.uses op.registry fun r => op.task.leaving r exit h.now⟩ ∧
      h' = h.leave id op exit outcome) := by
  cases hst with
  | call | pass => exact Or.inl ⟨hop, Source.noConfusion⟩
  | track =>
      exact Or.inl ⟨(List.getElem?_append_left (List.getElem?_eq_some_iff.1 hop).1).trans hop,
        Source.noConfusion⟩
  | @enter _ j op' hj =>
      by_cases hid : j = id
      · subst hid
        cases hop.symm.trans hj
        exact Or.inr (Or.inl ⟨rfl, rfl⟩)
      · refine Or.inl ⟨?_, fun heq => hid (Source.operation.inj heq)⟩
        rw [operations_enter, List.getElem?_set_ne hid, hop]
  | @leave _ j op' hj exit outcome =>
      by_cases hid : j = id
      · subst hid
        cases hop.symm.trans hj
        exact Or.inr (Or.inr ⟨exit, outcome, rfl, rfl⟩)
      · refine Or.inl ⟨?_, fun heq => hid (Source.operation.inj heq)⟩
        rw [operations_leave, List.getElem?_set_ne hid, hop]
  | sweep _ hs =>
      refine Or.inl ⟨?_, Source.noConfusion⟩
      rw [runSweep_eq hs]
      exact hop
  | monitor _ hm =>
      obtain ⟨_, -, he⟩ := runMonitor_cases hm
      refine Or.inl ⟨?_, Source.noConfusion⟩
      rw [he.operations]
      exact hop
  | elsewhere he => exact Or.inl ⟨by rw [he.operations, hop], Source.noConfusion⟩

/-! ### Sweepers -/

/-- Only a sweeper that looks at its ticker is changed. -/
theorem Step.sweeps (hst : Step h e h') :
    h'.sweeps = h.sweeps ∨
    ∃ id s, e = ⟨.sweeper id, h.uses s.registry fun _ => s.sweeper.act h.now⟩ ∧
      h.sweeps[id]? = some s ∧ h'.now = h.now ∧
      h'.sweeps = h.sweeps.set id { s with
        sweeper := (h.registryAt? s.registry).elim s.sweeper fun _ => s.sweeper.fired h.now } := by
  cases hst with
  | call | track | enter | leave | pass => exact Or.inl rfl
  | @sweep _ id s hs =>
      refine Or.inr ⟨id, s, rfl, hs, ?_, sweeps_runSweep hs⟩
      rw [runSweep_eq hs]
      exact Platform.now_withRegistry ..
  | monitor _ hm =>
      obtain ⟨_, -, he⟩ := runMonitor_cases hm
      exact Or.inl he.sweeps
  | elsewhere he => exact Or.inl he.sweeps

/-- What a sweeper does. -/
theorem Step.swept (hst : Step h e h') (he : e.source = .sweeper id) :
    ∃ s, h.sweeps[id]? = some s ∧ e.use? = h.uses s.registry fun _ => s.sweeper.act h.now := by
  cases hst with
  | sweep _ hs =>
      cases he
      exact ⟨_, hs, rfl⟩
  | call | track | enter | leave | monitor | pass | elsewhere => cases he

/-- A sweeper stays with its registry, and lives as long as nobody cancels it. -/
theorem Step.live (hst : Step h e h') {s' : Sweep} (hs' : h'.sweeps[id]? = some s') :
    ∃ s, h.sweeps[id]? = some s ∧ s'.registry = s.registry ∧
      s'.sweeper.isLive = s.sweeper.isLive := by
  rcases hst.sweeps with heq | ⟨j, s, -, hs, -, heq⟩
  · exact ⟨s', heq ▸ hs', rfl, rfl⟩
  · rcases entry_set (heq ▸ hs') with ⟨rfl, rfl⟩ | ⟨-, hs'⟩
    · refine ⟨s, hs, rfl, ?_⟩
      cases h.registryAt? s.registry with
      | none => rfl
      | some r => exact s.sweeper.isLive_fired h.now
    · exact ⟨s', hs', rfl, rfl⟩

/-- What becomes of a sweeper and its registry: it looks at its ticker, or the registry is used by
others. -/
theorem Step.sweeper (hst : Step h e h') {s : Sweep} {r : Task.Registry}
    (hs : h.sweeps[id]? = some s) (hr : h.registryAt? s.registry = some r) :
    ∃ s' r', h'.sweeps[id]? = some s' ∧ s'.registry = s.registry ∧
      h'.registryAt? s.registry = some r' ∧
      (s'.sweeper = s.sweeper ∧ (∃ act, r' = r.after ⟨h.now, act⟩) ∨
        h'.now = h.now ∧ s.sweeper.run r h.now = (s'.sweeper, r')) := by
  obtain ⟨act, hafter⟩ := hst.after hr
  rcases hst.sweeps with heq | ⟨j, s₁, he, hs₁, hnow, heq⟩
  · exact ⟨s, _, heq ▸ hs, rfl, hafter, Or.inl ⟨rfl, act, rfl⟩⟩
  · by_cases hj : j = id
    · subst hj
      cases hs.symm.trans hs₁
      refine ⟨{ s with sweeper := s.sweeper.fired h.now }, r.after ⟨h.now, s.sweeper.act h.now⟩,
        ?_, rfl, ?_, Or.inr ⟨hnow, s.sweeper.run_eq r h.now⟩⟩
      · rw [heq, List.getElem?_set_self (List.getElem?_eq_some_iff.1 hs).1, hr]
        rfl
      · rw [hst.registry, hr, Option.map_some, he, Event.effect, uses, hr]
        exact congrArg some (if_pos rfl)
    · refine ⟨s, _, ?_, rfl, hafter, Or.inl ⟨rfl, act, rfl⟩⟩
      rw [heq, List.getElem?_set_ne hj, hs]

/-- A sweeper keeps a registry swept since some time. -/
def Sweeps (h : Host ids α) (id k : Nat) (since : Tick) : Prop :=
  ∃ s r, h.sweeps[id]? = some s ∧ s.registry = k ∧ h.registryAt? k = some r ∧
    Task.Sweeping h.now r s.sweeper ∧ Task.Swept since r s.sweeper

/-- Less is asked of a later time. -/
theorem Sweeps.mono {since time : Tick} (hsweeps : h.Sweeps id k since) (hle : since ≤ time) :
    h.Sweeps id k time := by
  obtain ⟨s, r, hs, hk, hr, hsweeping, hswept⟩ := hsweeps
  exact ⟨s, r, hs, hk, hr, hsweeping, hswept.mono hle⟩

/-- A step leaves it to that. -/
theorem Step.keeps_sweeps {since : Tick} (hst : Step h e h') (hsweeps : h.Sweeps id k since) :
    h'.Sweeps id k since := by
  obtain ⟨s, r, hs, rfl, hr, hsweeping, hswept⟩ := hsweeps
  obtain ⟨s', r', hs', hk, hr', hcase⟩ := hst.sweeper hs hr
  refine ⟨s', r', hs', hk, hr', ?_⟩
  rcases hcase with ⟨heq, act, rfl⟩ | ⟨hnow, hrun⟩
  · rw [heq]
    exact ⟨(hsweeping.after _).later hst.clock, hswept.after hsweeping⟩
  · have hkept := hsweeping.run
    have hkept' := hswept.run hsweeping
    rw [hrun] at hkept hkept'
    rw [hnow]
    exact ⟨hkept, hkept'⟩

/-! ### The cycles -/

/-- What becomes of the ticker of a monitor. -/
theorem Step.timing (hst : Step h e h') {m : Health.Monitor} (hm : h.monitor? id = some m) :
    ∃ m', h'.monitor? id = some m' ∧
      (timing m' = timing m ∨
        h'.now = h.now ∧ timing m' = (m.ticker.map fun t => (t.fire h.now).2, m.interval)) := by
  cases hst with
  | call | track | enter | leave | pass => exact ⟨m, hm, Or.inl rfl⟩
  | sweep _ hs =>
      rw [runSweep_eq hs]
      exact ⟨m, hm, Or.inl rfl⟩
  | @monitor _ j m₁ hm₁ =>
      obtain ⟨m₂, ht, he⟩ := runMonitor_cases hm₁
      by_cases hj : j = id
      · subst hj
        cases hm.symm.trans hm₁
        have hset : (h.setMonitor j m₂).monitor? j = some m₂ :=
          List.getElem?_set_self (List.getElem?_eq_some_iff.1 hm).1
        obtain ⟨m', hm', htime⟩ := he.timing hset
        exact ⟨m', hm', Or.inr ⟨he.now, htime.trans ht⟩⟩
      · have hset : (h.setMonitor j m₂).monitor? id = some m :=
          (List.getElem?_set_ne hj).trans hm
        obtain ⟨m', hm', htime⟩ := he.timing hset
        exact ⟨m', hm', Or.inl htime⟩
  | elsewhere he =>
      obtain ⟨m', hm', htime⟩ := he.timing hm
      exact ⟨m', hm', Or.inl htime⟩

/-- The cycles that a monitor runs. -/
theorem Step.cycles (hst : Step h e h') {m : Health.Monitor} (hm : h.monitor? id = some m) {n : Nat}
    (he : e.source = .monitor id n) : n = cyclesDue m h.now := by
  cases hst with
  | monitor _ hm₁ =>
      cases he
      cases hm.symm.trans hm₁
      rfl
  | call | track | enter | leave | sweep | pass | elsewhere => cases he

end Host
end Vigil
