import Vigil.Proofs.Fault.Contents
import Vigil.Proofs.Reporter.State

/-!
# Reporter — the log of a program

The log of a program is only ever appended to, and by its events alone (`journal`): markers lie
elsewhere, and arming and disarming touches no files.  A capture that handles signals has the log
open, and each capture reports only the first of them; since what a capture has seen follows from
the events as well, so does what is in the log.

* `Platform.Extends.install`, `Platform.Extends.recordFault` and the like: what each operation of a
  reporter appends.
* `Undisturbed`, `Undisturbed.extends`: a step appends what its events say.

**The log of a program** (`log_exact`): what is in the log at any time stays, and what comes behind
it are the reports of the events, in order.
-/

namespace Vigil

/-! ### What reporters do to their log -/

/-- The report of a reporter is that of its captures. -/
theorem Reporter.bytes_written {r : Reporter} {p : Platform} {c : Fault.Capture} {fault : Fault}
    (hc : c.registry = r.registry) :
    (r.written p fault).bytes = Text.encode (p.report c fault) := by
  rw [Platform.report, hc]
  exact if_neg Bool.false_ne_true

namespace Platform.Extends
variable {log : String} {p p' : Platform} {r r' : Reporter}

/-- The marker is deleted, and lies elsewhere. -/
theorem removeMarker (hm : p.files.place r.markerPath ≠ p.files.place log)
    (hf : p'.files = (Marker.remove p.files r.markerPath).1) (hc : p'.captures = p.captures) :
    p.Extends log [] p' :=
  .keeps (hf ▸ Marker.keeps_remove p.files r.markerPath) hm.symm hc

theorem takePrior (hm : p.files.place r.markerPath ≠ p.files.place log) :
    p.Extends log [] (r.takePrior p).1 := by
  have hfiles := r.files_takePrior p
  have hcaptures := (r.takePrior_rest p).1
  split at hfiles
  next => exact removeMarker hm hfiles hcaptures
  next => exact .of_eq hfiles hcaptures

/-- The marker is written, with the directories above it. -/
theorem leaveMarker (hm : p.files.place r.markerPath ≠ p.files.place log) :
    p.Extends log [] (r.leaveMarker p) := by
  obtain ⟨hfiles, hcaptures⟩ := r.leaveMarker_eq p
  have ha := p.files.adds_makeParents r.markerPath
  have hparents : p.Extends log [] { p with files := (p.files.makeParents r.markerPath).1 } :=
    .adds ha rfl
  rcases Marker.write_cases p.files r.markerPath (r.ownMarker p) with ⟨hw, -⟩ | ⟨hw, -⟩
  · exact hparents.congr (hfiles.trans hw) hcaptures
  · have hk := Tree.keeps_write hw
    rw [← hfiles] at hk
    refine hparents.after (.keeps hk ?_ hcaptures)
    intro heq
    rw [ha.place, ha.place] at heq
    exact hm heq.symm

theorem deleteMarker (hm : p.files.place r.markerPath ≠ p.files.place log)
    (kept : Error → Notice) : p.Extends log [] (r.deleteMarker kept p) := by
  obtain ⟨hfiles, hcaptures⟩ := r.deleteMarker_eq kept p
  exact removeMarker hm hfiles hcaptures

theorem untouched (h : Interceptor.Untouched p p') : p.Extends log [] p' := .of_eq h.1 h.2

theorem prepared (hm : p.files.place r.markerPath ≠ p.files.place r.logPath) :
    p.Extends r.logPath [] (r.prepared p) := by
  have htaken := takePrior hm
  have hleft : (r.takePrior p).1.Extends r.logPath [] (r.leaveMarker (r.takePrior p).1) :=
    leaveMarker (by rw [htaken.place, htaken.place]; exact hm)
  exact (htaken.after hleft).after (.addCapture _ _ _)

theorem install {found : Option PriorCrash}
    (hm : p.files.place r.markerPath ≠ p.files.place r.logPath) (hn : r.capture = none)
    (h : r.install p = (r', p', .ok found)) : p.Extends r.logPath [] p' :=
  (prepared hm).after (.untouched (Reporter.install_ok hn h).2.2)

theorem refused {e : Error} (hm : p.files.place r.markerPath ≠ p.files.place r.logPath)
    (h : r.install p = (r', p', .error e)) : p.Extends r.logPath [] p' := by
  obtain ⟨q, hq, rfl⟩ := Reporter.refused_untouched h
  have hdone := (prepared hm).after (.untouched hq)
  exact hdone.after (.deleteMarker (by rw [hdone.place, hdone.place]; exact hm) _)

theorem uninstall (hm : p.files.place r.markerPath ≠ p.files.place log) :
    p.Extends log [] (r.uninstall p).2 := by
  rw [Reporter.uninstall]
  split
  next =>
    have hreleased : p.Extends log [] (r.release p).2 :=
      .untouched (Interceptor.untouched_disarmAll r.interceptors p)
    refine hreleased.after (deleteMarker (r := (r.release p).1) ?_ _)
    rw [hreleased.place, hreleased.place]
    exact hm
  next => exact .refl log p

theorem drop (r : Reporter) (p : Platform) : p.Extends log [] (r.drop p) := by
  rw [Reporter.drop]
  induction r.interceptors generalizing p with
  | nil => exact .refl log p
  | cons i is ih => exact (untouched (i.untouched_drop p)).after (ih _)

/-- A fault is recorded directly, where the log can be opened. -/
theorem recordFault (hopens : p.files.Opens r.logPath)
    (hc : ∀ c, r.capture = some c →
      ∃ x, p.captures[c]? = some x ∧ x.registry = r.registry ∧ x.logPath = r.logPath)
    (fault : Fault) :
    p.Extends r.logPath (r.written p fault).bytes (r.recordFault fault p).2.1 := by
  rw [Reporter.snd_recordFault]
  cases hcapture : r.capture with
  | some c =>
      obtain ⟨x, hx, hreg, hlog⟩ := hc c hcapture
      rw [Reporter.bytes_written hreg]
      exact .record hx hlog hopens fault
  | none =>
      -- Making the capture opens the log once, so it can be opened again.
      obtain ⟨t, id, ho⟩ := hopens
      obtain ⟨logFile, hcaptures⟩ := Program.captures_addCapture p r.registry r.logPath
      have hx : (p.addCapture r.registry r.logPath).captures[p.captures.length]? =
          some (Program.blank r.registry r.logPath logFile) := by
        rw [hcaptures, List.getElem?_concat_length]
      have hagain : (p.addCapture r.registry r.logPath).files.Opens r.logPath := by
        rw [Platform.addCapture, Fault.Capture.prepare, ho]
        exact (Tree.ready_openAppend ho).opens
      have hone := Extends.addCapture p r.registry r.logPath
      refine hone.after ?_
      have hrecord := Extends.record hx rfl hagain fault
      rw [(Records.addCapture p r.registry r.logPath).report fault rfl] at hrecord
      rw [Reporter.bytes_written (c := Program.blank r.registry r.logPath logFile) rfl]
      exact hrecord

end Platform.Extends

namespace Program
open Fault (Written)
open Interceptor (observesPanics)
open Sessions (World)
variable {start : Platform} {w w₁ w' : World} {log : String} {es fs : List Event}

/-! ### What events say about a log -/

/-- What an event adds to the log, after those before it. -/
def entries (before : List Event) : Event → List Written
  | .recorded _ report => [report]
  | .signalled c opened report => if opened && !before.any (·.signals c) then [report] else []
  | _ => []

/-- What events add to the log, in order, after those before them. -/
def journal (before : List Event) : List Event → List Written
  | [] => []
  | e :: es => entries before e ++ journal (before ++ [e]) es

theorem journal_append (before es fs : List Event) :
    journal before (es ++ fs) = journal before es ++ journal (before ++ es) fs := by
  induction es generalizing before with
  | nil => rw [List.nil_append, List.append_nil]; rfl
  | cons e es ih =>
      rw [List.cons_append, journal, journal, ih, List.append_assoc, List.append_assoc,
        List.singleton_append]

theorem journal_replicate (before : List Event) (n c : Nat) (report : Written) :
    journal before (List.replicate n (.recorded c report)) = List.replicate n report := by
  induction n generalizing before with
  | zero => rfl
  | succ n ih => rw [List.replicate_succ, List.replicate_succ, journal, ih]; rfl

/-! ### Programs that are left alone with their log -/

/-- A step of a program whose reporters have this log, and their markers elsewhere: the log can be
opened where a fault is recorded, and others leave it alone. -/
structure Undisturbed (start : Platform) (log : String) (w : World) (es : List Event)
    (w' : World) : Prop where
  step : Step start w es w'
  apart : ∀ (k : Nat) (r : Reporter), w'.sessions[k]? = some (some r) →
    r.logPath = log ∧ w'.platform.files.place r.markerPath ≠ w'.platform.files.place log
  opens : ∀ c report, .recorded c report ∈ es → w.platform.files.Opens log
  others : .elsewhere ∈ es → ∃ touched, Tree.Keeps touched w.platform.files w'.platform.files ∧
    ¬ touched (w.platform.files.place log)

/-- A program begins alone: nothing records panics yet, and there are no captures. -/
structure Alone (start : Platform) : Prop where
  sound : start.routing.Sound
  quiet : start.routing.captures = []
  captures : start.captures = []

theorem Alone.begins (h : Alone start) : Begins start :=
  ⟨h.sound, by rw [h.quiet]; exact nofun⟩

/-- What is true of such a program after the events `es`. -/
structure Journaled (start : Platform) (log : String) (es : List Event) (w : World) : Prop where
  tracked : Tracked start es w
  apart : ∀ (k : Nat) (r : Reporter), w.sessions[k]? = some (some r) →
    r.logPath = log ∧ w.platform.files.place r.markerPath ≠ w.platform.files.place log
  allTo : w.platform.AllTo log

namespace Journaled

/-- What a capture has counted and seen follows from the events. -/
theorem capture (h₀ : Alone start) (hj : Journaled start log es w) {i : Nat} {c : Fault.Capture}
    (hc : w.platform.captures[i]? = some c) :
    c.signalled = es.any (·.signals i) ∧
      c.recorded = es.countP (·.records i) + if es.any (·.signals i) then 1 else 0 := by
  have hnew := hj.tracked.develops.new i c (by rw [h₀.captures]; exact Nat.zero_le i) hc
  obtain ⟨hrecorded, hsignalled, -⟩ :=
    replay_counts i es (blank c.registry c.logPath c.logFile)
  rw [hnew]
  exact ⟨hsignalled.trans (Bool.false_or _), by rw [hrecorded]; simp [blank]⟩

/-- A capture of a reporter leads to its log. -/
theorem held (hj : Journaled start log es w) {k c : Nat} {r : Reporter}
    (hk : w.sessions[k]? = some (some r)) (hc : r.capture = some c) :
    ∃ x, w.platform.captures[c]? = some x ∧ x.registry = r.registry ∧ x.logPath = r.logPath :=
  (hj.tracked.holds k r c hk hc).2

/-- A panic is recorded by the observers of the reporter that is installed, and by nobody else. -/
theorem panic (h₀ : Alone start) (hj : Journaled start log es w) {k c : Nat} {r : Reporter}
    (hk : w.sessions[k]? = some (some r)) (hc : r.capture = some c) (message thread : Option String)
    (hopens : 0 < r.interceptors.countP observesPanics → w.platform.files.Opens log) :
    w.platform.Extends log
      ((List.replicate (r.interceptors.countP observesPanics)
        (r.written w.platform (w.platform.panicFault message thread))).flatMap Written.bytes)
      (w.platform.panic message thread) := by
  obtain ⟨rfl, -⟩ := hj.apart k r hk
  obtain ⟨x, hx, hreg, hlog⟩ := hj.held hk hc
  have hcaptures := (hj.tracked.routed.fits k r hk).captures c hc
  rw [h₀.quiet, List.append_nil] at hcaptures
  have hall := Platform.Extends.recordAll hx hlog (r.interceptors.countP observesPanics) hopens
    (w.platform.panicFault message thread)
  rw [← hcaptures] at hall
  rw [List.flatMap_replicate, Reporter.bytes_written hreg]
  exact hall.congr rfl rfl

/-- A panic is not recorded while no reporter is installed. -/
theorem panicVacant (h₀ : Alone start) (hj : Journaled start log es w) (hv : Vacant w)
    (message thread : Option String) :
    w.platform.Extends log [] (w.platform.panic message thread) := by
  have hcaptures := (hj.tracked.routed.grows.captures_of_quiet h₀.sound
    (hj.tracked.routed.quiet hv)).trans h₀.quiet
  have hnone : w.platform.Extends log [] (w.platform.recordAll w.platform.routing.captures
      (w.platform.panicFault message thread)) := by
    rw [hcaptures]
    exact .refl log _
  exact hnone.congr rfl rfl

/-- A signal is reported if it is the first that is handled with a capture. -/
theorem signal (h₀ : Alone start) (hj : Journaled start log es w) (s : Signal) {i : Nat}
    {c : Fault.Capture} (hc : w.platform.captures[i]? = some c) :
    w.platform.Extends log
      ((entries es (.signalled i c.logFile.isSome
        (w.platform.written c (.ofSignal s) true))).flatMap Written.bytes)
      (w.platform.handleSignal (some i) s).1 := by
  have hone := Platform.Extends.recordSignal hj.allTo hc (.ofSignal s)
  rw [(hj.capture h₀ hc).1] at hone
  rw [entries]
  cases hfirst : c.logFile.isSome && !es.any (·.signals i) with
  | true =>
      rw [hfirst, if_pos rfl] at hone
      rw [if_pos rfl, List.flatMap_singleton]
      exact hone
  | false =>
      rw [hfirst, if_neg Bool.false_ne_true] at hone
      exact hone

end Journaled

/-- A step adds to the log what its events say. -/
theorem Undisturbed.extends (h₀ : Alone start) (hj : Journaled start log es w)
    (h : Undisturbed start log w fs w') :
    w.platform.Extends log ((journal es fs).flatMap Written.bytes) w'.platform := by
  obtain ⟨hst, -, hopens, hothers⟩ := h
  cases hst with
  | launch => exact .refl log _
  | @install k r r' p' found hk hv hi =>
      obtain ⟨rfl, hm⟩ := hj.apart k r hk
      exact .install hm (hv k r hk) hi
  | @refuse k r r' p' e hk hi =>
      obtain ⟨rfl, hm⟩ := hj.apart k r hk
      exact .refused hm hi
  | @reinstall k r hk hi =>
      rw [Reporter.install_of_installed hi]
      exact .of_eq rfl rfl
  | @uninstall k r hk hi => exact .uninstall (hj.apart k r hk).2
  | @pass k r hk hi =>
      rw [Reporter.uninstall_of_not_installed hi]
      exact .refl log _
  | @recordFault k r hk fault =>
      obtain ⟨rfl, -⟩ := hj.apart k r hk
      have hone := Platform.Extends.recordFault (hopens _ _ List.mem_cons_self)
        (fun c hc => hj.held hk hc) fault
      rw [← List.append_nil (Written.bytes _)] at hone
      exact hone
  | @panic k r c hk hc message thread =>
      rw [journal_replicate]
      exact hj.panic h₀ hk hc message thread fun hpos =>
        hopens c _ (List.mem_replicate.2 ⟨Nat.ne_of_gt hpos, rfl⟩)
  | panicVacant hv message thread => exact hj.panicVacant h₀ hv message thread
  | @signal s i c hc =>
      rw [journal, journal, List.append_nil]
      exact hj.signal h₀ s hc
  | status => exact .of_eq rfl rfl
  | drop k hk => exact .drop _ _
  | restart hf hc hr => exact .of_eq hf hc
  | elsewhere hc hr =>
      obtain ⟨touched, hk, hn⟩ := hothers List.mem_cons_self
      exact .keeps hk hn hc

theorem Undisturbed.journaled (h₀ : Alone start) (hj : Journaled start log es w)
    (h : Undisturbed start log w fs w') : Journaled start log (es ++ fs) w' where
  tracked := h.step.tracked h₀.begins hj.tracked
  apart := h.apart
  allTo := (h.extends h₀ hj).allTo hj.allTo

theorem journaled_run {ess : List (List Event)} (h₀ : Alone start)
    (h : Run (Undisturbed start log) ⟨start, []⟩ ess w) :
    Journaled start log ess.flatten w := by
  have hinit : Journaled start log [] ⟨start, []⟩ :=
    { tracked := tracked_run h₀.begins (.refl _)
      apart := fun k r hk => by cases List.getElem?_nil.symm.trans hk
      allTo := by
        rw [Platform.AllTo, h₀.captures]
        exact fun _ hc => absurd hc List.not_mem_nil }
  refine Run.history (I := fun ess w => Journaled start log (List.flatten ess) w) hinit ?_ h
  intro ess w fs w' hw hst
  rw [List.flatten_append, List.flatten_singleton]
  exact hst.journaled h₀ hw

/-- A run goes on from any of its states, and adds to the log what its events say. -/
theorem Journaled.extends_run {ess : List (List Event)} (h₀ : Alone start)
    (hj : Journaled start log es w) (h : Run (Undisturbed start log) w ess w') :
    w.platform.Extends log ((journal es ess.flatten).flatMap Written.bytes) w'.platform := by
  induction h generalizing es with
  | refl => exact .refl log _
  | more hst _ ih =>
      rw [List.flatten_cons, journal_append, List.flatMap_append]
      exact (hst.extends h₀ hj).trans (ih (hst.journaled h₀ hj))

/-- **The log of a program.**  In any run of a program whose reporters have this log, and their
markers elsewhere:
* from any time `w₁` to any later `w`, the log stays as it was, and behind it stand the reports that
  the events say, in order: one for each fault that was recorded directly or by an interceptor that
  observes panics, and one for the first signal that was handled with each capture for which the log
  could be opened beforehand;
* a capture has counted the faults that were recorded with it, and the first signal;
* a signal that is handled is handed on. -/
theorem log_exact {ess fss : List (List Event)} (h₀ : Alone start)
    (h₁ : Run (Undisturbed start log) ⟨start, []⟩ ess w₁)
    (h : Run (Undisturbed start log) w₁ fss w) :
    Fault.Log.contents w.platform.files log =
        Fault.Log.contents w₁.platform.files log ++
          (journal ess.flatten fss.flatten).flatMap Written.bytes ∧
      (∀ (i : Nat) (c : Fault.Capture), w.platform.captures[i]? = some c →
        c.recorded = (ess.flatten ++ fss.flatten).countP (·.records i) +
          if (ess.flatten ++ fss.flatten).any (·.signals i) then 1 else 0) ∧
      ∀ (capture : Option Nat) (s : Signal), (w.platform.handleSignal capture s).2 = s := by
  refine ⟨((journaled_run h₀ h₁).extends_run h₀ h).contents, fun i c hc => ?_, fun capture s => ?_⟩
  · have hj := journaled_run h₀ (h₁.trans h)
    rw [List.flatten_append] at hj
    exact (hj.capture h₀ hc).2
  · cases capture <;> rfl

/-- On a new platform a program begins alone. -/
theorem alone_new (files : Tree) (now : Tick) (wall : Instant) (pid : UInt32)
    (site frames : String) : Alone (.new files now wall pid site frames) :=
  ⟨⟨nofun, nofun⟩, rfl, rfl⟩

/-- A fault is recorded by a reporter that was never installed. -/
theorem log_exact_recorded :
    let start : Platform := .new (.new []) 0 ⟨0, 0, by decide⟩ 7 "" ""
    ∃ w report, Alone start ∧
      Run (Undisturbed start "/crash.log") ⟨start, []⟩ [[.launched 0 0], [.recorded 0 report]] w ∧
      Fault.Log.contents w.platform.files "/crash.log" = report.bytes := by
  intro start
  have h₀ : Alone start := alone_new _ _ _ _ _ _
  let r := Reporter.new "/m" "/crash.log" "1" 0 []
  let fault : Fault := .signal "SIGSEGV" 11
  have hopens : start.files.Opens "/crash.log" := (Tree.new []).openAppend_log (by decide)
  have hapart : ∀ {k : Nat} {s : Reporter}, [some r][k]? = some (some s) →
      s.logPath = "/crash.log" ∧ start.files.place s.markerPath ≠ start.files.place "/crash.log" :=
    fun hk => by
      cases List.mem_singleton.1 (List.mem_of_getElem? hk)
      exact ⟨rfl, by decide⟩
  have hnone : ∀ i ∈ ([] : List Interceptor), i.IsNew := nofun
  have hlaunch : Undisturbed start "/crash.log" ⟨start, []⟩ [.launched 0 0] ⟨start, [some r]⟩ :=
    ⟨.launch _ hnone, fun _ _ => hapart, fun _ _ hm => (nomatch List.mem_singleton.1 hm),
      fun hm => (nomatch List.mem_singleton.1 hm)⟩
  have hrecord : Undisturbed start "/crash.log" ⟨start, [some r]⟩
      [.recorded 0 (r.written start fault)] ⟨(r.recordFault fault start).2.1, [some r]⟩ := by
    have hstep : Step start ⟨start, [some r]⟩ _ _ := .recordFault _ 0 rfl fault
    have hplace := (Platform.Extends.recordFault (r := r) hopens nofun fault).place
    refine ⟨hstep, fun k s hk => ?_, fun _ _ _ => hopens,
      fun hm => (nomatch List.mem_singleton.1 hm)⟩
    rw [hplace, hplace]
    exact hapart hk
  have hrun := Run.more hlaunch (.one hrecord)
  have hempty : Fault.Log.contents start.files "/crash.log" = [] := by
    rw [Fault.Log.contents, Tree.place_log]
    rfl
  have hlog := (log_exact h₀ (.refl _) hrun).1
  rw [hempty] at hlog
  exact ⟨_, _, h₀, hrun, hlog.trans (List.append_nil _)⟩

end Program
end Vigil
