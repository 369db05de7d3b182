import Vigil.Proofs.Platform.Frame
import Vigil.Proofs.Reporter.Lifecycle

/-!
# Reporter — its observers of panics

What the operations of a reporter do to who records a panic.

* `arming_install`: an installation puts the observers of its interceptors in front.
* `grows_refused`: one that is refused leaves observers in front that are not active.
* `disarming_uninstall`: an uninstallation stops the observers of its interceptors, and puts back a
  hook that was there since the reporter was installed, or before.
* `stopped_reporter`: a reporter that goes away stops its observers and leaves the hook alone.
-/

namespace Vigil

namespace Platform.Records

theorem takePrior (r : Reporter) (p : Platform) : p.Records (r.takePrior p).1 := by
  rw [Reporter.takePrior]
  split
  next => rfl
  next =>
    dsimp only
    split <;> rfl

theorem leaveMarker (r : Reporter) (p : Platform) : p.Records (r.leaveMarker p) := by
  rw [Reporter.leaveMarker]
  split <;> rfl

theorem deleteMarker (r : Reporter) (kept : Error → Notice) (p : Platform) :
    p.Records (r.deleteMarker kept p) := by
  rw [Reporter.deleteMarker]
  split <;> rfl

end Platform.Records

namespace Reporter
open Interceptor
variable {r r' : Reporter} {p p' : Platform} {found : Option PriorCrash} {e : Error}

theorem records_prepared (r : Reporter) (p : Platform) : p.Records (r.prepared p) :=
  ((Platform.Records.takePrior r p).trans (.leaveMarker r _)).trans (.addCapture _ _ _)

/-- The capture of an installation is a new one. -/
theorem nextCapture_eq (r : Reporter) (p : Platform) : r.nextCapture p = p.captures.length := by
  rw [nextCapture, (leaveMarker_eq r _).2, (takePrior_rest r p).1]

/-- An installation puts the observers of its interceptors in front. -/
theorem arming_install (hs : p.routing.Sound) (hidle : ∀ i ∈ r.interceptors, i.Idle p.routing)
    (hn : r.capture = none) (h : r.install p = (r', p', .ok found)) :
    Arming p.captures.length p.routing p'.routing r.interceptors r'.interceptors := by
  have hrouting := (records_prepared r p).routing
  rw [install_eq hn, nextCapture_eq] at h
  split at h
  next => cases h
  next harm =>
    rw [← hrouting] at hs hidle
    have harming := arming_armAll hs hidle harm
    cases h
    rwa [hrouting] at harming

/-- An installation that is refused leaves nothing but observers that are not active. -/
theorem grows_refused (hs : p.routing.Sound) (hidle : ∀ i ∈ r.interceptors, i.Idle p.routing)
    (hn : r.capture = none) (h : r.install p = (r', p', .error e)) :
    p.routing.Grows p'.routing ∧ p.routing.Quiet p'.routing ∧
      (∀ i ∈ r'.interceptors, i.Idle p'.routing) ∧
      r'.interceptors.countP observesPanics = r.interceptors.countP observesPanics := by
  obtain ⟨x, -, rfl, rfl⟩ := install_error hn h
  have hrouting := (records_prepared r p).routing
  have hmem : ∀ i ∈ x.front ++ x.refusing :: x.back, i.Idle p.routing := fun i hi =>
    hidle i (x.split ▸ hi)
  have harming := arming_armAll (hrouting ▸ hs) (fun i hi => hrouting ▸
    hmem i (List.mem_append_left _ hi)) x.arms
  obtain ⟨hsame, hafter, hkind, hkind'⟩ := (refuses_arm x.refuses).apart
  rw [hrouting, ← hsame] at harming
  have hdisarming := disarming_disarmAll
    (p := x.left.note [.armFailed x.after.name x.error]) harming.grows.within harming.armed
  obtain ⟨hgrows, hquiet⟩ := hdisarming.toStopped.grows harming.grows harming.armed harming.owned
  rw [(Platform.Records.deleteMarker r _ x.undone.2).routing]
  refine ⟨hgrows, hquiet, fun i hi => ?_, ?_⟩
  · rcases List.mem_append.1 hi with hi | hi
    · exact hdisarming.idle i hi
    · rcases List.mem_cons.1 hi with rfl | hi
      · exact hafter _
      · -- What lies behind is as idle as before.
        exact (hmem i (List.mem_append_right _ (List.mem_cons_of_mem _ hi))).grows hgrows
  · refine Eq.trans ?_ (congrArg (List.countP observesPanics) x.split).symm
    have hdisarmed : x.undone.1.countP observesPanics = x.armed.countP observesPanics :=
      hdisarming.kinds
    rw [List.countP_append, List.countP_append, List.countP_cons, List.countP_cons, hkind, hkind',
      hdisarmed, harming.kinds]

/-- An uninstallation stops the observers of the interceptors, and puts back a hook from before. -/
theorem disarming_uninstall {n : Nat} {h₀ : Hook} (hw : p.hook.Within n p.nextObserver h₀)
    (harmed : ∀ i ∈ r.interceptors, i.Armed n p.nextObserver h₀) (hi : r.isInstalled = true) :
    Disarming n h₀ p.routing (r.uninstall p).2.routing r.interceptors
      (r.uninstall p).1.interceptors := by
  rw [uninstall, if_pos hi]
  dsimp only
  rw [(Platform.Records.deleteMarker _ _ _).routing]
  exact disarming_disarmAll hw harmed

theorem routing_recordFault (r : Reporter) (fault : Fault) (p : Platform) :
    (r.recordFault fault p).2.1.routing = p.routing := by
  rw [recordFault]
  split
  next => exact (Platform.Records.record p _ fault).routing
  next => exact (Platform.Records.trans (.addCapture p _ _) (.record _ _ fault)).routing

/-! ### Going away -/

theorem stopped_drop {n : Nat} {h₀ : Hook} (i : Interceptor)
    (hw : p.hook.Within n p.nextObserver h₀) :
    Stopped n h₀ p.routing (i.drop p).routing [i] := by
  cases i with
  | panicHook o => exact stopped_deactivate hw
  | fatalSignals => exact .apart rfl hw
  | counting => exact .apart rfl hw

theorem hook_drop (i : Interceptor) (p : Platform) : (i.drop p).hook = p.hook := by
  cases i <;> rfl

/-- A reporter that goes away stops its observers, and leaves the hook alone. -/
theorem stopped_reporter {n : Nat} {h₀ : Hook} (r : Reporter)
    (hw : p.hook.Within n p.nextObserver h₀) :
    Stopped n h₀ p.routing (r.drop p).routing r.interceptors ∧ (r.drop p).hook = p.hook := by
  rw [drop]
  induction r.interceptors generalizing p with
  | nil => exact ⟨.nil hw, rfl⟩
  | cons i is ih =>
      have hone := stopped_drop i hw
      obtain ⟨hrest, hhook⟩ := ih hone.within
      exact ⟨hone.cons hrest, hhook.trans (hook_drop i p)⟩

end Reporter
end Vigil
