import Vigil.Proofs.Fault.Contents
import Vigil.Proofs.Reporter.State

/-!
# Reporter — panics

However often reporters were installed, uninstalled or dropped, the hook of the program is the one
that it began with behind observers of interceptors, and of these only those of the reporter that is
installed are active.

* `runHook_append`: what a panic does is what its observers record, and then what the hook does that
  was there before them.
* `Observed`: a reporter has as many interceptors that observe panics as when its session began.

**Panics** (`panic_routing`): a panic runs the hook that was there in the beginning once, and is
recorded once for each interceptor of the reporter that is installed before it does.
-/

namespace Vigil

/-- What a thread that panics does if this is the hook. -/
def Platform.runHook (p : Platform) (h : Hook) (message thread : Option String) : Platform :=
  let p := p.recordAll (h.captures p.observers.contains) (p.panicFault message thread)
  { p with panics := p.panics + 1 }

namespace Program
open Interceptor (observesPanics)
open Sessions (World)
variable {start : Platform} {w w' : World} {es fs : List Event} {k n : Nat} {r s : Reporter}

/-! ### How many observers a reporter has -/

/-- A reporter has as many interceptors that observe panics as when its session began. -/
structure Observed (es : List Event) (w : World) : Prop where
  count : ∀ (k : Nat) (r : Reporter), w.sessions[k]? = some (some r) →
    ∀ n, .launched k n ∈ es ↔ n = r.interceptors.countP observesPanics
  known : ∀ k n, .launched k n ∈ es → k < w.sessions.length

/-- A session that begins is a new one. -/
theorem Step.launched (h : Step start w fs w') (hm : .launched k n ∈ fs) :
    k = w.sessions.length ∧ k < w'.sessions.length := by
  cases h with
  | launch =>
      cases List.mem_singleton.1 hm
      refine ⟨rfl, ?_⟩
      rw [List.length_append]
      exact Nat.lt_succ_self _
  | install => cases List.mem_singleton.1 hm
  | refuse => cases hm
  | reinstall => cases hm
  | uninstall => cases List.mem_singleton.1 hm
  | pass => cases hm
  | recordFault => cases List.mem_singleton.1 hm
  | panic => cases List.eq_of_mem_replicate hm
  | panicVacant => cases hm
  | signal => cases List.mem_singleton.1 hm
  | status => cases hm
  | drop => cases hm
  | restart => cases hm
  | elsewhere => cases List.mem_singleton.1 hm

theorem Step.observed (hs : start.routing.Sound) (hr : Routed start w) (ho : Observed es w)
    (h : Step start w fs w') : Observed (es ++ fs) w' := by
  -- A session that is there already does not begin now, and keeps its observers.
  have hold : ∀ {k : Nat} {r s : Reporter}, w.sessions[k]? = some (some r) →
      s.interceptors.countP observesPanics = r.interceptors.countP observesPanics →
      ∀ n, .launched k n ∈ es ++ fs ↔ n = s.interceptors.countP observesPanics := by
    intro k r s hk hkinds n
    have hlt : k < w.sessions.length := (List.getElem?_eq_some_iff.1 hk).1
    have hnot : .launched k n ∉ fs := fun hf => Nat.ne_of_lt hlt (h.launched hf).1
    rw [hkinds, ← ho.count k r hk n, List.mem_append, or_iff_left hnot]
  refine ⟨fun k s hk => ?_, fun k n hm => ?_⟩
  · cases h.turn hs hr hk with
    | stays hk => exact hold hk rfl
    | begins hk' _ _ hf =>
        intro n
        have hnot : .launched k n ∉ es := fun hm => Nat.ne_of_lt (ho.known k n hm) hk'
        rw [hf, List.mem_append, or_iff_right hnot, List.mem_singleton, Event.launched.injEq]
        exact and_iff_right rfl
    | installed hk _ _ hkinds => exact hold hk hkinds
    | refused hk _ _ hkinds => exact hold hk hkinds
    | uninstalled hk _ _ hkinds => exact hold hk hkinds
    | faulted hk hs => exact hold hk (by rw [hs])
  · rcases List.mem_append.1 hm with hm | hm
    · exact Nat.lt_of_lt_of_le (ho.known k n hm) h.sessions.1
    · exact (h.launched hm).2

theorem observed_run {ess : List (List Event)} (h₀ : Begins start)
    (h : Run (Step start) ⟨start, []⟩ ess w) : Observed ess.flatten w := by
  have hboth : Tracked start ess.flatten w ∧ Observed ess.flatten w := by
    refine Run.history (I := fun ess w => Tracked start (List.flatten ess) w ∧
      Observed (List.flatten ess) w) ⟨tracked_run h₀ (.refl _), nofun, nofun⟩ ?_ h
    intro ess w fs w' hw hst
    rw [List.flatten_append, List.flatten_singleton]
    exact ⟨hst.tracked h₀ hw.1, hst.observed h₀.sound hw.1.routed hw.2⟩
  exact hboth.2

/-! ### The hook -/

/-- What observers in front record comes before what the hook behind them does. -/
theorem runHook_append {p : Platform} {h h' : Hook} {cs : List Nat}
    (hc : h'.captures p.observers.contains = cs ++ h.captures p.observers.contains)
    (message thread : Option String) :
    p.runHook h' message thread =
      (p.recordAll cs (p.panicFault message thread)).runHook h message thread := by
  have hsame : (p.recordAll cs (p.panicFault message thread)).observers = p.observers ∧
      (p.recordAll cs (p.panicFault message thread)).panicFault message thread =
        p.panicFault message thread := by
    rw [Platform.Records.recordAll p cs (p.panicFault message thread)]
    exact ⟨rfl, rfl⟩
  rw [Platform.runHook, Platform.runHook, hc, hsame.1, hsame.2, Platform.recordAll_append]

/-- **Panics.**  After any run of a program, if a thread panics:
* the hook that was there in the beginning is called once by the hook that there is now;
* while a reporter is installed whose session began with `n` interceptors that observe panics, the
  panic is recorded `n` times with the capture of the reporter, and then that hook does what it
  does; the capture counts so many more, and a log that can be opened has so many more reports;
* while none is installed, that hook does what it does, and nothing else happens. -/
theorem panic_routing {ess : List (List Event)} (h₀ : Begins start)
    (h : Run (Step start) ⟨start, []⟩ ess w) (message thread : Option String) :
    w.platform.hook.chain.count start.hook = 1 ∧
    (∀ (k : Nat) (r : Reporter), w.sessions[k]? = some (some r) → r.isInstalled = true →
      ∃ n c x, (∀ m, .launched k m ∈ ess.flatten ↔ m = n) ∧
        r.capture = some c ∧ w.platform.captures[c]? = some x ∧
        x.registry = r.registry ∧ x.logPath = r.logPath ∧
        let fault := w.platform.panicFault message thread
        let p := w.platform.recordAll (List.replicate n c) fault
        w.platform.panic message thread = p.runHook start.hook message thread ∧
        p.captures[c]? = some { x with recorded := x.recorded + n } ∧
        (w.platform.files.Opens r.logPath →
          Fault.Log.contents p.files r.logPath = Fault.Log.contents w.platform.files r.logPath ++
            (List.replicate n (Text.encode (w.platform.report x fault))).flatten)) ∧
    ((∀ (k : Nat) (r : Reporter), w.sessions[k]? = some (some r) → r.isInstalled = false) →
      w.platform.panic message thread = w.platform.runHook start.hook message thread) := by
  have ht := tracked_run h₀ h
  have ho := observed_run h₀ h
  have hbefore := ht.routed.grows.captures_before h₀.sound
  refine ⟨Hook.count_chain ht.routed.grows.within, fun k r hk hi => ?_, fun hv => ?_⟩
  · have hfits := ht.routed.fits k r hk
    rw [hfits.installed] at hi
    obtain ⟨c, hc⟩ := Option.isSome_iff_exists.1 hi
    obtain ⟨-, x, hx, hxr, hxl⟩ := ht.holds k r c hk hc
    have hcaptures := hfits.captures c hc
    rw [← hbefore] at hcaptures
    refine ⟨_, c, x, ho.count k r hk, hc, hx, hxr, hxl, runHook_append hcaptures message thread,
      Platform.captures_recordAll hx _ _, fun hopens => ?_⟩
    exact (Platform.Extends.recordAll hx hxl _ (fun _ => hopens) _).contents
  · have hvacant : Vacant w := fun k r hk => by
      have hnot := hv k r hk
      rw [(ht.routed.fits k r hk).installed] at hnot
      exact Option.isNone_iff_eq_none.1 (by rw [← Option.not_isSome, hnot]; rfl)
    have hcaptures : _ = [] ++ start.routing.captures :=
      ht.routed.grows.captures_of_quiet h₀.sound (ht.routed.quiet hvacant)
    rw [← hbefore] at hcaptures
    exact runHook_append hcaptures message thread

/-- A thread panics while a reporter with two observers is installed, whose first installation was
refused. -/
theorem panic_routing_twice :
    let start : Platform := .new (.new []) 0 ⟨0, 0, by decide⟩ 7 "" ""
    ∃ w r, Begins start ∧
      Run (Step start) ⟨start, []⟩ [[.launched 0 2], [], [.installed 0 1]] w ∧
      w.sessions[0]? = some (some r) ∧ r.isInstalled = true ∧
      w.platform.panic none none =
        (w.platform.recordAll [1, 1] (w.platform.panicFault none none)).runHook .base none none := by
  intro start
  have h₀ : Begins start := begins_new _ _ _ _ _ _
  obtain ⟨r, p, hrun, hc⟩ := run_retried start "m" "log" "1" 0 (.signal "no")
  have hi : r.isInstalled = true := by
    rw [((tracked_run h₀ hrun).routed.fits 0 r rfl).installed, hc]
    rfl
  obtain ⟨n, c, x, hn, hc', -, -, -, hpanic, -⟩ :=
    (panic_routing h₀ hrun none none).2.1 0 r rfl hi
  obtain rfl : 2 = n := (hn 2).1 List.mem_cons_self
  cases hc.symm.trans hc'
  exact ⟨_, r, h₀, hrun, rfl, hi, hpanic⟩

end Program
end Vigil
