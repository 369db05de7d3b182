import Vigil.Proofs.Host.Locks
import Vigil.Proofs.Reporter.Panics
import Vigil.Proofs.Task.Snapshot

/-!
# Reporter — panics in operations

When an operation that runs as a tracked task panics, the hook runs first: the code that tracks the
operation ends its task only when it is unwound.  So the report of the panic finds the task pending,
and lists it, if it finds the registry at all; it does not wait for the lock.  The operation is
polled without the lock, but it may panic within a call of the registry.

* `Lists`, `lists_of_pending`: a section about tasks lists every task that is pending.
* `Observes`, `Observes.panic`: a reporter that is installed records a panic before anything else is
  done.
* `panic_within_call`: an operation that panics within a call of the registry is not listed.

**Panics in operations** (`panic_with_operation`): what is reported when an operation panics.
-/

namespace Vigil

/-! ### What a report lists -/

namespace Task.Statistics
variable {text : List Char} {s : Snapshot} {o : Orphan}

/-- A section about tasks lists an orphan: it has the counts of a snapshot, and under the heading the
lines of all orphans of the snapshot, that one among them. -/
def Lists (text : List Char) (s : Snapshot) (o : Orphan) : Prop :=
  ∃ before after, (before ++ o :: after).Perm s.orphans ∧
    text = s.counts ++ ('\n' :: Snapshot.heading ++
      ((before ++ o :: after).map Orphan.line).flatten)

theorem lists_of_pending {r : Registry} {id : String} {x : Record} (hx : r.get? id = some x)
    (hp : x.outcome = .pending) (now : Tick) :
    Lists (ofRecords r.records now).flatten (r.snapshot now) (.ofRecord now x) := by
  have hmem : x ∈ r.records.filter (·.isOrphaned) :=
    List.mem_filter.2 ⟨Registry.mem_records.2 ⟨id, hx⟩, decide_eq_true hp⟩
  obtain ⟨before, after, hsplit⟩ := List.append_of_mem hmem
  have horphans := Snapshot.orphans_ofRecords r.records now
  have hcount := Snapshot.orphaned_ofRecords r.records now
  rw [hsplit] at horphans hcount
  have hsome : ¬ (Snapshot.ofRecords r.records now).orphaned = 0 := by
    rw [hcount, List.length_append, List.length_cons]
    exact Nat.ne_of_gt (Nat.succ_pos _)
  refine ⟨before.map (.ofRecord now), after.map (.ofRecord now), ?_, ?_⟩
  · rw [List.map_append, List.map_cons] at horphans
    exact horphans.symm
  · rw [flatten_ofRecords, if_neg hsome, hsplit, ← List.map_cons, ← List.map_append, List.map_map]
    rfl

/-- Nothing is listed while the registry is busy. -/
theorem not_lists_busy : ¬ Lists busy.flatten s o := by
  rintro ⟨before, after, -, htext⟩
  have hheading : Snapshot.heading <:+: busy.flatten := by
    rw [htext]
    exact heading_listed _ _
  have hletter : 'O' ∈ busy.flatten := hheading.subset (by decide)
  exact absurd hletter (by decide)

end Task.Statistics

namespace Fault.Report
variable {time : Instant} {fault : Fault} {statistics statistics' : List (List Char)}

theorem block_flatten : block time fault [statistics.flatten] = block time fault statistics := by
  simp only [block, pieces, List.flatten_append, List.flatten_cons, List.flatten_nil,
    List.append_nil]

theorem flatten_of_block (h : block time fault statistics = block time fault statistics') :
    statistics.flatten = statistics'.flatten := by
  simp only [block, pieces, List.flatten_append] at h
  exact List.append_cancel_left (List.append_cancel_right h)

end Fault.Report

/-! ### Who records a panic -/

namespace Program
open Interceptor (observesPanics)
open Sessions (World)
variable {start : Platform} {w : World} {r : Reporter}

/-- In a program that began as `start` a reporter is installed, with an interceptor that observes
panics. -/
structure Observes (start : Platform) (w : World) (r : Reporter) : Prop where
  begins : Begins start
  run : ∃ ess, Run (Step start) ⟨start, []⟩ ess w
  session : ∃ k : Nat, w.sessions[k]? = some (some r)
  installed : r.isInstalled = true
  observes : 0 < r.interceptors.countP observesPanics

/-- A panic is recorded by each of its interceptors that observe panics, before anything else is
done. -/
theorem Observes.panic (ho : Observes start w r) (message thread : Option String) :
    ∃ c x, r.capture = some c ∧ w.platform.captures[c]? = some x ∧
      x.registry = r.registry ∧ x.logPath = r.logPath ∧
      let fault := w.platform.panicFault message thread
      let n := r.interceptors.countP observesPanics
      let p := w.platform.recordAll (List.replicate n c) fault
      w.platform.panic message thread = p.runHook start.hook message thread ∧
        (w.platform.files.Opens r.logPath →
          Fault.Log.contents p.files r.logPath = Fault.Log.contents w.platform.files r.logPath ++
            (List.replicate n (Text.encode (w.platform.report x fault))).flatten) := by
  obtain ⟨ess, hrun⟩ := ho.run
  obtain ⟨k, hk⟩ := ho.session
  have ht := tracked_run ho.begins hrun
  have hfits := ht.routed.fits k r hk
  have hi := ho.installed
  rw [hfits.installed] at hi
  obtain ⟨c, hc⟩ := Option.isSome_iff_exists.1 hi
  obtain ⟨-, x, hx, hxr, hxl⟩ := ht.holds k r c hk hc
  have hcaptures := hfits.captures c hc
  rw [← ht.routed.grows.captures_before ho.begins.sound] at hcaptures
  refine ⟨c, x, hc, hx, hxr, hxl, runHook_append hcaptures message thread, fun hopens => ?_⟩
  exact (Platform.Extends.recordAll hx hxl _ (fun _ => hopens) _).contents

/-- Others may do something. -/
theorem Observes.elsewhere (ho : Observes start w r) {p' : Platform}
    (hc : p'.captures = w.platform.captures) (hr : p'.routing = w.platform.routing) :
    Observes start { w with platform := p' } r := by
  obtain ⟨ess, hrun⟩ := ho.run
  exact ⟨ho.begins, ⟨_, hrun.trans (.one (.elsewhere w hc hr))⟩, ho.session, ho.installed,
    ho.observes⟩

theorem exists_observes (h₀ : Begins start)
    (harms : (Reporter.new "m" "log" "1" 0 [.panicHook {}]).Arms start) :
    ∃ w r, Observes start w r ∧ r.registry = 0 := by
  let new := Reporter.new "m" "log" "1" 0 [.panicHook {}]
  have hnew : ∀ i ∈ new.interceptors, i.IsNew :=
    List.forall_mem_singleton.2 (rfl : ({} : PanicObserver) = {})
  have hv : Vacant ⟨start, [some new]⟩ := fun k r hk => by
    cases List.mem_singleton.1 (List.mem_of_getElem? hk)
    rfl
  obtain ⟨r, p, hi⟩ := Reporter.install_of_arms rfl harms
  have hinstall : Step start ⟨start, [some new]⟩ _ ⟨p, [some r]⟩ := .install _ 0 rfl hv hi
  have hrun := Run.more (.launch ⟨start, []⟩ hnew) (.one hinstall)
  have hcount := ((observed_run h₀ hrun).count 0 r rfl 1).1 List.mem_cons_self
  refine ⟨_, r, ⟨h₀, ⟨_, hrun⟩, ⟨0, rfl⟩, Reporter.isInstalled_install rfl hi, ?_⟩, ?_⟩
  · rw [← hcount]
    exact Nat.one_pos
  · obtain ⟨-, ⟨_, rfl⟩, -⟩ := Reporter.install_ok rfl hi
    rfl

/-! ### Panics in operations -/

open Host (Scene)
open Task.Statistics (Lists busy)

/-- **Panics in operations.**  An operation runs that was started as a task, and nobody ended its
task since, whatever else was done.  A reporter is installed for its registry, with interceptors
that observe panics.  If the operation panics now:
* if another thread holds the lock of the registry, or the operation itself does because it panics
  within a call of the registry, the report says that the registry was busy;
* otherwise the report has the counts of the registry, and lists the task by its id and name, as one
  of the orphans that are counted;
* each of the interceptors records the panic before anything else is done, and a log that can be
  opened has the report so many times more.
The name is that which the operation was started with, unless somebody else has started a task under
its id since. -/
theorem panic_with_operation {ids : Nat → String} {α : Type} {start : Platform} {w : World}
    {r : Reporter}
    {h : Host ids α} {n : Nat} {name : String} {es : List Host.Event} {s : Scene ids α}
    (ho : Observes start w r) (hu : Scene.Underway h r.registry n name es s)
    (hp : w.platform = s.host.platform) (message thread : Option String) :
    let p := w.platform
    let fault := p.panicFault message thread
    ∃ c x m, r.capture = some c ∧ p.captures[c]? = some x ∧ 0 < m ∧
      ((s.stage = .calling ∨ ∃ i, s.holder = some (.other i)) ∧
          p.report x fault = Fault.Report.block p.wall fault busy ∨
        s.stage = .polled ∧ s.holder = none ∧
          ∃ registry name' t text, s.host.registryAt? r.registry = some registry ∧
            ((∀ e ∈ es, ¬ e.Starts r.registry (ids n)) → name' = name ∧ t = h.now) ∧
            p.report x fault = Fault.Report.block p.wall fault [text] ∧
            let snap := registry.snapshot p.now
            Lists text snap ⟨ids n, name', p.now - t⟩ ∧
              snap.orphans.length = snap.orphaned) ∧
      let p' := p.recordAll (List.replicate m c) fault
      p.panic message thread = p'.runHook start.hook message thread ∧
        (p.files.Opens r.logPath → Fault.Log.contents p'.files r.logPath =
          Fault.Log.contents p.files r.logPath ++
            (List.replicate m (Text.encode (p.report x fault))).flatten) := by
  intro p fault
  obtain ⟨c, x, hc, hx, hxr, -, hpanic⟩ := ho.panic message thread
  refine ⟨c, x, _, hc, hx, ho.observes, ?_, hpanic⟩
  obtain ⟨registry, name', t, hregistry, hrecord, hsame⟩ := hu.pending
  have hreport : p.report x fault =
      Fault.Report.block p.wall fault (s.host.platform.statistics r.registry) := by
    rw [Platform.report, hxr, ← hp]
  rcases hu.holder_cases with ⟨hwho, hheld⟩ | ⟨hpolled, hfree⟩
  · rw [hu.sound.statistics_of_held hregistry hheld] at hreport
    exact Or.inl ⟨hwho, hreport⟩
  · rw [hu.sound.statistics_of_free hregistry hfree, ← hp, ← Fault.Report.block_flatten] at hreport
    exact Or.inr ⟨hpolled, hfree, registry, name', t, _, hregistry, hsame, hreport,
      Task.Statistics.lists_of_pending hrecord rfl _, Task.Snapshot.length_orphans_ofRecords _ _⟩

/-- An operation panics when it has waited. -/
theorem panic_with_operation_waited :
    let start : Platform := .new (.new []) 0 ⟨0, 0, by decide⟩ 7 "" ""
    ∃ (w : World) (r : Reporter) (h : Host Host.numbered Unit) (s : Scene Host.numbered Unit),
      Observes start w r ∧ Scene.Underway h r.registry 0 "job" [⟨.clock, none⟩] s ∧
      w.platform = s.host.platform ∧
      let p := w.platform
      let fault := p.panicFault (some Host.operationPanic) none
      ∃ x text snap, p.report x fault = Fault.Report.block p.wall fault [text] ∧
        Lists text snap ⟨Host.numbered 0, "job", 5⟩ := by
  intro start
  have h₀ : Begins start := begins_new _ _ _ _ _ _
  obtain ⟨w₀, r, ho₀, hregistry⟩ := exists_observes h₀ rfl
  let p₀ : Platform := { w₀.platform with registries := [.new 300 60 0], inUse := none, now := 0 }
  let op : Host.Operation Unit := ⟨0, .fresh "job", 5, .panic, none, none⟩
  let h : Host Host.numbered Unit := (Host.new p₀).addOperation 0 "job" 5 .panic
  let s : Scene Host.numbered Unit :=
    { Scene.started h 0 op with host := (Scene.started h 0 op).host.atTime 5 }
  have hpass : Scene.Step 0 0 (.started h 0 op) ⟨.clock, none⟩ s :=
    .apart _ (.pass _ (Nat.zero_le 5)) Host.Source.noConfusion (fun _ => nofun) rfl
  have ho : Observes start { w₀ with platform := s.host.platform } r := ho₀.elsewhere rfl rfl
  have hu : Scene.Underway h r.registry 0 "job" [⟨.clock, none⟩] s := by
    rw [hregistry]
    exact ⟨⟨op, rfl, rfl, rfl, .one hpass⟩, rfl,
      List.forall_mem_singleton.2 (Host.Event.not_ends rfl), Or.inl rfl⟩
  obtain ⟨c, x, m, -, -, -, hreport, -⟩ :=
    panic_with_operation ho hu rfl (some Host.operationPanic) none
  rcases hreport with ⟨hstage | ⟨i, hi⟩, -⟩ |
    ⟨-, -, registry, name, t, text, -, hsame, hreport, hlists, -⟩
  · cases hstage
  · cases hi
  · obtain ⟨rfl, rfl⟩ := hsame (List.forall_mem_singleton.2 fun ⟨_, hu, _⟩ => nomatch hu)
    exact ⟨_, r, h, s, ho, hu, rfl, x, text, _, hreport, hlists⟩

/-- An operation writes the statistics of the registry to a writer that panics: no other thread
holds the lock, and still the report lists nothing. -/
theorem panic_within_call :
    let start : Platform := .new (.new []) 0 ⟨0, 0, by decide⟩ 7 "" ""
    ∃ (w : World) (r : Reporter) (h : Host Host.numbered Unit) (s : Scene Host.numbered Unit),
      Observes start w r ∧ Scene.Underway h r.registry 0 "job" [⟨.others, none⟩] s ∧
      w.platform = s.host.platform ∧ (∀ i, s.holder ≠ some (.other i)) ∧
      let message := some Session.writerPanic
      let thread := some Host.mainThread
      Scene.Step r.registry 0 s ⟨.others, none⟩
        ⟨(s.host.panics message thread).unlocked, .ended .abandoned .panicked, none⟩ ∧
      let p := w.platform
      let fault := p.panicFault message thread
      ∃ c x m, r.capture = some c ∧ p.captures[c]? = some x ∧ 0 < m ∧
        p.panic message thread =
          (p.recordAll (List.replicate m c) fault).runHook .base message thread ∧
        p.report x fault = Fault.Report.block p.wall fault busy ∧
        ∀ text snap o, p.report x fault = Fault.Report.block p.wall fault [text] →
          ¬ Lists text snap o := by
  intro start
  have h₀ : Begins start := begins_new _ _ _ _ _ _
  obtain ⟨w₀, r, ho₀, hregistry⟩ := exists_observes h₀ rfl
  let p₀ : Platform := { w₀.platform with registries := [.new 300 60 0], inUse := none, now := 0 }
  let op : Host.Operation Unit := ⟨0, .fresh "job", 5, .panic, none, none⟩
  let h : Host Host.numbered Unit := (Host.new p₀).addOperation 0 "job" 5 .panic
  let s : Scene Host.numbered Unit :=
    ⟨(Scene.started h 0 op).host.locked 0, .calling, some .operation⟩
  have hlock : Scene.Step 0 0 (.started h 0 op) ⟨.others, none⟩ s := .lock _ rfl rfl
  have ho : Observes start { w₀ with platform := s.host.platform } r := ho₀.elsewhere rfl rfl
  have hu : Scene.Underway h r.registry 0 "job" [⟨.others, none⟩] s := by
    rw [hregistry]
    exact ⟨⟨op, rfl, rfl, rfl, .one hlock⟩, rfl,
      List.forall_mem_singleton.2 (Host.Event.not_ends rfl), Or.inr rfl⟩
  obtain ⟨c, x, hc, hx, hxr, -, hpanic, -⟩ :=
    ho.panic (some Session.writerPanic) (some Host.mainThread)
  obtain ⟨registry, -, -, hr, -⟩ := hu.pending
  have hbusy := hu.sound.statistics_of_held hr rfl
  refine ⟨_, r, h, s, ho, hu, rfl, fun _ => nofun, .panicCalling s rfl _ _, c, x, _, hc, hx,
    ho.observes, hpanic, ?_, fun text snap o hreport => ?_⟩
  · rw [Platform.report, hxr, hbusy]
  · rw [Platform.report, hxr, hbusy] at hreport
    have htext : [text].flatten = busy.flatten := (Fault.Report.flatten_of_block hreport).symm
    rw [List.flatten_singleton] at htext
    rw [htext]
    exact Task.Statistics.not_lists_busy

end Program
end Vigil
