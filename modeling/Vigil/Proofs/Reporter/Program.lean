import Vigil.Proofs.Entries
import Vigil.Proofs.Fault.Readable
import Vigil.Proofs.Reporter.Observers
import Vigil.Proofs.Reporter.Sessions

/-!
# Reporter — reporters of a program

A program in which sessions begin and end, each with a reporter that may be installed and uninstalled
again and again; at most one is installed at a time.  Faults are recorded directly, by panics and by
signals, and in between others do what they like with everything but the captures and the hook.  A
`Step` lists what it comes to for the reporters and their log (`Event`).

* `Fits`: what is true of a reporter that is installed, and of one that is not.
* `Routed`: panics are recorded by the interceptors of the reporter that is installed, once each,
  and by nobody else who did not so in the beginning.
* `Step.routed`: every step keeps this up.
-/

namespace Vigil

/-- The interceptor was never armed. -/
def Interceptor.IsNew : Interceptor → Prop
  | .panicHook o => o = {}
  | .fatalSignals previous => previous = []
  | .counting _ => True

/-- The report of a fault that a reporter records. -/
def Reporter.written (r : Reporter) (p : Platform) (fault : Fault) : Fault.Written :=
  ⟨p.wall, fault, p.statistics r.registry, false⟩

namespace Program
open Fault (Written)
open Interceptor (observesPanics)
open Sessions (World)

/-- What a step comes to. -/
inductive Event where
  /-- A session began, with so many interceptors that observe panics. -/
  | launched (session observers : Nat)
  /-- A reporter that was not installed was installed, with a capture of its own. -/
  | installed (session capture : Nat)
  /-- A reporter that was installed was uninstalled. -/
  | uninstalled (session : Nat)
  /-- A fault was to be recorded with a capture. -/
  | recorded (capture : Nat) (report : Written)
  /-- A signal was handled with a capture, for which the log was opened beforehand or not. -/
  | signalled (capture : Nat) (opened : Bool) (report : Written)
  /-- Others did something. -/
  | elsewhere

/-- No reporter is installed. -/
def Vacant (w : World) : Prop :=
  ∀ (k : Nat) (r : Reporter), w.sessions[k]? = some (some r) → r.capture = none

/-- A step of a program that began as `start`. -/
inductive Step (start : Platform) : World → List Event → World → Prop where
  | launch (w : World) {markerPath logPath version : String} {registry : Nat}
      {interceptors : List Interceptor} (h : ∀ i ∈ interceptors, i.IsNew) :
      Step start w [.launched w.sessions.length (interceptors.countP observesPanics)]
        { w with sessions :=
          w.sessions ++ [some (.new markerPath logPath version registry interceptors)] }
  | install (w : World) (k : Nat) {r r' : Reporter} {p' : Platform} {found : Option PriorCrash}
      (hk : w.sessions[k]? = some (some r)) (hv : Vacant w)
      (h : r.install w.platform = (r', p', .ok found)) :
      Step start w [.installed k w.platform.captures.length] ⟨p', w.sessions.set k (some r')⟩
  /-- An interceptor refuses to be armed. -/
  | refuse (w : World) (k : Nat) {r r' : Reporter} {p' : Platform} {e : Error}
      (hk : w.sessions[k]? = some (some r)) (h : r.install w.platform = (r', p', .error e)) :
      Step start w [] ⟨p', w.sessions.set k (some r')⟩
  /-- A reporter that is installed is to be installed again. -/
  | reinstall (w : World) (k : Nat) {r : Reporter} (hk : w.sessions[k]? = some (some r))
      (hi : r.capture.isSome = true) :
      Step start w []
        ⟨(r.install w.platform).2.1, w.sessions.set k (some (r.install w.platform).1)⟩
  | uninstall (w : World) (k : Nat) {r : Reporter} (hk : w.sessions[k]? = some (some r))
      (hi : r.isInstalled = true) :
      Step start w [.uninstalled k]
        ⟨(r.uninstall w.platform).2, w.sessions.set k (some (r.uninstall w.platform).1)⟩
  /-- A reporter that is not installed is to be uninstalled. -/
  | pass (w : World) (k : Nat) {r : Reporter} (hk : w.sessions[k]? = some (some r))
      (hi : r.isInstalled = false) :
      Step start w []
        ⟨(r.uninstall w.platform).2, w.sessions.set k (some (r.uninstall w.platform).1)⟩
  /-- A fault is recorded directly; a reporter that is not installed makes a capture for it. -/
  | recordFault (w : World) (k : Nat) {r : Reporter} (hk : w.sessions[k]? = some (some r))
      (fault : Fault) :
      Step start w
        [.recorded (r.capture.getD w.platform.captures.length) (r.written w.platform fault)]
        ⟨(r.recordFault fault w.platform).2.1,
          w.sessions.set k (some (r.recordFault fault w.platform).1)⟩
  /-- A thread panics while a reporter is installed. -/
  | panic (w : World) (k : Nat) {r : Reporter} {c : Nat} (hk : w.sessions[k]? = some (some r))
      (hc : r.capture = some c) (message thread : Option String) :
      Step start w
        (List.replicate (r.interceptors.countP observesPanics)
          (.recorded c (r.written w.platform (w.platform.panicFault message thread))))
        { w with platform := w.platform.panic message thread }
  /-- A thread panics while none is installed. -/
  | panicVacant (w : World) (hv : Vacant w) (message thread : Option String) :
      Step start w [] { w with platform := w.platform.panic message thread }
  /-- A signal is handled with a capture, be it that of the reporter that is installed or one from
  before. -/
  | signal (w : World) (s : Signal) {i : Nat} {c : Fault.Capture}
      (hc : w.platform.captures[i]? = some c) :
      Step start w
        [.signalled i c.logFile.isSome (w.platform.written c (.ofSignal s) true)]
        { w with platform := (w.platform.handleSignal (some i) s).1 }
  /-- Somebody looks at what is left of earlier sessions. -/
  | status (w : World) (c : Config) :
      Step start w []
        { w with platform := w.platform.note (Status.collect w.platform.files c).2 }
  /-- A session ends, and its reporter is not uninstalled. -/
  | drop (w : World) (k : Nat) {r : Reporter} (hk : w.sessions[k]? = some (some r)) :
      Step start w [] ⟨r.drop w.platform, w.sessions.set k none⟩
  /-- The process is killed, and the program begins anew. -/
  | restart (w : World) {p' : Platform} (hf : p'.files = w.platform.files)
      (hc : p'.captures = w.platform.captures) (hr : p'.routing = start.routing) :
      Step start w [] ⟨p', w.sessions.map fun _ => none⟩
  /-- Others do something: time passes, tasks start and end, files change. -/
  | elsewhere (w : World) {p' : Platform} (hc : p'.captures = w.platform.captures)
      (hr : p'.routing = w.platform.routing) :
      Step start w [.elsewhere] { w with platform := p' }

/-! ### Sessions -/

section Sessions
variable {w : World} {k j n : Nat} {r s : Reporter} {x : Option Reporter}

/-- A session is the one that was changed, or as before. -/
theorem session_set {xs : List (Option Reporter)} (h : (xs.set k x)[j]? = some (some s)) :
    j = k ∧ x = some s ∨ j ≠ k ∧ xs[j]? = some (some s) :=
  (entry_set h).imp_left fun ⟨hj, hs⟩ => ⟨hj, hs.symm⟩

/-- A session is the one that began, or as before. -/
theorem session_concat {xs : List (Option Reporter)} (h : (xs ++ [some r])[j]? = some (some s)) :
    j = xs.length ∧ s = r ∨ xs[j]? = some (some s) :=
  (entry_concat h).imp_left fun ⟨hj, hs⟩ => ⟨hj, Option.some.inj hs⟩

/-- If no reporter is installed, the one that was changed is not. -/
theorem Vacant.self {p' : Platform} (hk : w.sessions[k]? = some (some r))
    (hv : Vacant ⟨p', w.sessions.set k (some s)⟩) : s.capture = none :=
  hv k s (List.getElem?_set_self (List.getElem?_eq_some_iff.1 hk).1)

/-- If no reporter is installed but one that was changed, none is. -/
theorem Vacant.of_set {p' : Platform} (hk : w.sessions[k]? = some (some r))
    (hv : Vacant ⟨p', w.sessions.set k x⟩) (hr : r.capture = none) : Vacant w := by
  intro j s hj
  by_cases hjk : j = k
  · subst hjk
    cases hk.symm.trans hj
    exact hr
  · exact hv j s ((List.getElem?_set_ne (Ne.symm hjk)).trans hj)

end Sessions

/-! ### Who records a panic -/

/-- What is true of a reporter, where panics are routed as `s` says and were as `s₀` says in the
beginning. -/
structure Fits (s₀ s : Routing) (r : Reporter) : Prop where
  installed : r.isInstalled = r.capture.isSome
  resting : r.capture = none → ∀ i ∈ r.interceptors, i.Idle s
  armed : r.capture.isSome = true → ∀ i ∈ r.interceptors, i.Armed s₀.next s.next s₀.hook
  owned : r.capture.isSome = true → ∀ x ∈ s.active, s₀.next ≤ x →
    ∃ i ∈ r.interceptors, i.observer? = some x
  captures : ∀ c, r.capture = some c →
    s.captures = List.replicate (r.interceptors.countP observesPanics) c ++ s₀.captures

/-- Panics are recorded by the reporter that is installed, and as in the beginning. -/
structure Routed (start : Platform) (w : World) : Prop where
  grows : start.routing.Grows w.platform.routing
  fits : ∀ (k : Nat) (r : Reporter), w.sessions[k]? = some (some r) →
    Fits start.routing w.platform.routing r
  one : ∀ (j k : Nat) (r s : Reporter), w.sessions[j]? = some (some r) → w.sessions[k]? = some (some s) →
    r.capture.isSome = true → s.capture.isSome = true → j = k
  quiet : Vacant w → start.routing.Quiet w.platform.routing

/-! ### Reporters that do nothing -/

namespace Fits
variable {s₀ s s' : Routing} {r : Reporter}

/-- A reporter that is not installed fits if its interceptors are idle. -/
theorem atRest (hinst : r.isInstalled = r.capture.isSome) (hc : r.capture = none)
    (hidle : ∀ i ∈ r.interceptors, i.Idle s) : Fits s₀ s r where
  installed := hinst
  resting _ := hidle
  armed hs := by
    rw [hc] at hs
    cases hs
  owned hs := by
    rw [hc] at hs
    cases hs
  captures c hs := nomatch hc.symm.trans hs

theorem new {markerPath logPath version : String} {registry : Nat}
    {interceptors : List Interceptor} (h : ∀ i ∈ interceptors, i.IsNew) :
    Fits s₀ s (.new markerPath logPath version registry interceptors) := by
  refine .atRest rfl rfl fun i hi => ?_
  have hnew := h i hi
  cases i with
  | panicHook o =>
      cases hnew
      exact ⟨rfl, nofun⟩
  | fatalSignals => trivial
  | counting => trivial

/-- What else is kept does not matter. -/
theorem congr {r' : Reporter} (h : Fits s₀ s r) (hs : s' = s) (hc : r'.capture = r.capture)
    (hi : r'.interceptors = r.interceptors) (hinst : r'.isInstalled = r.isInstalled) :
    Fits s₀ s' r' := by
  subst hs
  constructor
  · rw [hinst, hc]
    exact h.installed
  · rw [hc, hi]
    exact h.resting
  · rw [hc, hi]
    exact h.armed
  · rw [hc, hi]
    exact h.owned
  · rw [hc, hi]
    exact h.captures

/-- A reporter that is not installed fits where no observer is active again. -/
theorem later (h : Fits s₀ s r) (hc : r.capture = none) (hn : s.next ≤ s'.next)
    (ha : ∀ x, x < s.next → x ∈ s'.active → x ∈ s.active) : Fits s₀ s' r :=
  .atRest h.installed hc fun i hi => (h.resting hc i hi).later hn ha

/-- Observers that are not active make no difference. -/
theorem grows (h : Fits s₀ s r) (hs : s.Sound) (hg : s.Grows s') (hq : s.Quiet s') :
    Fits s₀ s' r where
  installed := h.installed
  resting hc i hi := (h.resting hc i hi).grows hg
  armed hc i hi := (h.armed hc i hi).mono hg.next_le
  owned hc x hx hle := h.owned hc x ((hg.before x (hq x hx)).1 hx) hle
  captures c hc := (hg.captures_of_quiet hs hq).trans (h.captures c hc)

/-- Observers that are not active may be stopped. -/
theorem same (h : Fits s₀ s r) (hh : s'.hook = s.hook) (hn : s'.next = s.next)
    (ha : ∀ x, x ∈ s'.active ↔ x ∈ s.active) : Fits s₀ s' r where
  installed := h.installed
  resting hc i hi := (h.resting hc i hi).later (Nat.le_of_eq hn.symm) fun x _ => (ha x).1
  armed hc i hi := by
    rw [hn]
    exact h.armed hc i hi
  owned hc x hx := h.owned hc x ((ha x).1 hx)
  captures c hc := (Routing.captures_congr hh ha).trans (h.captures c hc)

end Fits

/-! ### Steps -/

namespace Routed
variable {start p' : Platform} {w : World} {k : Nat} {r r' : Reporter} {x : Option Reporter}

/-- One session does something, or ends. -/
theorem set (h : Routed start w) (hk : w.sessions[k]? = some (some r))
    (hg : start.routing.Grows p'.routing)
    (hx : ∀ s, x = some s → Fits start.routing p'.routing s ∧
      (s.capture.isSome = true → r.capture.isSome = true ∨ Vacant w))
    (hothers : ∀ (j : Nat) (s : Reporter), j ≠ k → w.sessions[j]? = some (some s) →
      Fits start.routing p'.routing s)
    (hq : Vacant ⟨p', w.sessions.set k x⟩ → start.routing.Quiet p'.routing) :
    Routed start ⟨p', w.sessions.set k x⟩ where
  grows := hg
  fits j s hj := by
    rcases session_set hj with ⟨-, hs⟩ | ⟨hjk, hj⟩
    · exact (hx s hs).1
    · exact hothers j s hjk hj
  one i j s t hi hj hs ht := by
    -- Whoever is installed beside the session was so before.
    have hbeside : ∀ (j : Nat) (s t : Reporter), x = some s → s.capture.isSome = true → j ≠ k →
        w.sessions[j]? = some (some t) → t.capture.isSome = true → False := by
      intro j s t hs hcs hjk hj hct
      rcases (hx s hs).2 hcs with hr | hv
      · exact hjk (h.one j k t r hj hk hct hr)
      · rw [hv j t hj] at hct
        cases hct
    rcases session_set hi with ⟨hik, hsx⟩ | ⟨hik, hi'⟩ <;>
      rcases session_set hj with ⟨hjk, htx⟩ | ⟨hjk, hj'⟩
    · exact hik.trans hjk.symm
    · exact (hbeside j s t hsx hs hjk hj' ht).elim
    · exact (hbeside i t s htx ht hik hi' hs).elim
    · exact h.one i j s t hi' hj' hs ht
  quiet := hq

/-- A session does something that does not matter for panics. -/
theorem set_same (h : Routed start w) (hk : w.sessions[k]? = some (some r))
    (hp : p'.routing = w.platform.routing) (hc : r'.capture = r.capture)
    (hi : r'.interceptors = r.interceptors) (hinst : r'.isInstalled = r.isInstalled) :
    Routed start ⟨p', w.sessions.set k (some r')⟩ := by
  refine h.set hk (hp ▸ h.grows) ?_ (fun j s _ hj => hp ▸ h.fits j s hj) fun hv => ?_
  · rintro s ⟨⟩
    exact ⟨(h.fits k r hk).congr hp hc hi hinst, fun hs => Or.inl (hc ▸ hs)⟩
  · rw [hp]
    exact h.quiet (hv.of_set hk (hc.symm.trans (hv.self hk)))

/-- The platform changes in a way that does not matter for panics. -/
theorem platform_only (h : Routed start w) (hp : p'.routing = w.platform.routing) :
    Routed start { w with platform := p' } where
  grows := hp ▸ h.grows
  fits j s hj := hp ▸ h.fits j s hj
  one := h.one
  quiet hv := hp ▸ h.quiet hv

theorem launch (h : Routed start w) (hr : Fits start.routing w.platform.routing r)
    (hc : r.capture = none) : Routed start { w with sessions := w.sessions ++ [some r] } where
  grows := h.grows
  fits j s hj := by
    rcases session_concat hj with ⟨-, rfl⟩ | hj
    · exact hr
    · exact h.fits j s hj
  one i j s t hi hj hs ht := by
    rcases session_concat hi with ⟨-, rfl⟩ | hi
    · rw [hc] at hs
      cases hs
    · rcases session_concat hj with ⟨-, rfl⟩ | hj
      · rw [hc] at ht
        cases ht
      · exact h.one i j s t hi hj hs ht
  quiet hv := h.quiet fun j s hj => hv j s
    ((List.getElem?_append_left (List.getElem?_eq_some_iff.1 hj).1).trans hj)

/-- A reporter that is not installed is installed where none is. -/
theorem install {found : Option PriorCrash} (hs : start.routing.Sound) (h : Routed start w)
    (hk : w.sessions[k]? = some (some r)) (hv : Vacant w)
    (hi : r.install w.platform = (r', p', .ok found)) :
    Routed start ⟨p', w.sessions.set k (some r')⟩ := by
  have hn := hv k r hk
  have hquiet := h.quiet hv
  have hfits := h.fits k r hk
  have harming := Reporter.arming_install (h.grows.sound hs) (hfits.resting hn) hn hi
  obtain ⟨-, ⟨interceptors, rfl⟩, -⟩ := Reporter.install_ok hn hi
  refine h.set hk (h.grows.trans harming.grows) ?_ (fun j s _ hj => ?_) fun hv' => ?_
  · rintro s ⟨⟩
    refine ⟨⟨rfl, nofun, fun _ i hi => ?_, fun _ x hx hle => ?_, fun c hc => ?_⟩,
      fun _ => Or.inr hv⟩
    · exact (harming.armed i hi).behind h.grows.within h.grows.next_le harming.grows.next_le
    · -- What is active and not from the beginning was armed just now.
      refine harming.owned x hx (Nat.le_of_not_lt fun hlt => ?_)
      exact Nat.lt_irrefl _ (Nat.lt_of_lt_of_le (hquiet x ((harming.grows.before x hlt).1 hx)) hle)
    · rw [Reporter.nextCapture_eq] at hc
      cases hc
      rw [harming.kinds, harming.captures, h.grows.captures_of_quiet hs hquiet]
  · exact (h.fits j s hj).later (hv j s hj) harming.grows.next_le
      fun x hx => (harming.grows.before x hx).1
  · cases hv'.self hk

/-- An interceptor refuses to be armed, maybe while another reporter is installed. -/
theorem refuse {e : Error} (hs : start.routing.Sound) (h : Routed start w)
    (hk : w.sessions[k]? = some (some r)) (hi : r.install w.platform = (r', p', .error e)) :
    Routed start ⟨p', w.sessions.set k (some r')⟩ := by
  have hn := Reporter.capture_of_refused hi
  have hsound := h.grows.sound hs
  obtain ⟨hgrows, hquiet, hidle, -⟩ :=
    Reporter.grows_refused hsound ((h.fits k r hk).resting hn) hn hi
  have hn' : r'.capture = none := by
    rw [Reporter.refused_eq hi]
    exact hn
  refine h.set hk (h.grows.trans hgrows) ?_ (fun j s _ hj => ?_) fun hv => ?_
  · rintro s ⟨⟩
    have hinst : r'.isInstalled = r.isInstalled := by
      rw [Reporter.refused_eq hi]
      rfl
    exact ⟨.atRest (by rw [hinst, (h.fits k r hk).installed, hn, hn']) hn' hidle,
      fun hc => Or.inl (by rw [hn, ← hn']; exact hc)⟩
  · exact (h.fits j s hj).grows hsound hgrows hquiet
  · exact fun x hx => h.quiet (hv.of_set hk hn) x ((hgrows.before x (hquiet x hx)).1 hx)

/-- While a reporter is installed the others are not. -/
theorem others (h : Routed start w) (hk : w.sessions[k]? = some (some r))
    (hc : r.capture.isSome = true) {j : Nat} {s : Reporter} (hjk : j ≠ k)
    (hj : w.sessions[j]? = some (some s)) : s.capture = none :=
  Option.not_isSome_iff_eq_none.1 fun hs => hjk (h.one j k s r hj hk hs hc)

/-- A reporter is uninstalled, or goes away while it is installed. -/
theorem stop (h : Routed start w) (hk : w.sessions[k]? = some (some r))
    (hc : r.capture.isSome = true)
    (hs : Interceptor.Stopped start.nextObserver start.hook w.platform.routing p'.routing
      r.interceptors)
    (hx : ∀ s, x = some s → Fits start.routing p'.routing s ∧ s.capture = none) :
    Routed start ⟨p', w.sessions.set k x⟩ := by
  have hfits := h.fits k r hk
  obtain ⟨hgrows, hquiet⟩ := hs.grows h.grows (hfits.armed hc) (hfits.owned hc)
  refine h.set hk hgrows (fun s hs => ⟨(hx s hs).1, fun _ => Or.inl hc⟩) (fun j s hjk hj => ?_)
    fun _ => hquiet
  exact (h.fits j s hj).later (h.others hk hc hjk hj) (Nat.le_of_eq hs.next.symm)
    fun y _ hy => ((hs.active y).1 hy).1

theorem uninstall (h : Routed start w) (hk : w.sessions[k]? = some (some r))
    (hi : r.isInstalled = true) :
    Routed start ⟨(r.uninstall w.platform).2,
      w.sessions.set k (some (r.uninstall w.platform).1)⟩ := by
  have hfits := h.fits k r hk
  have hc : r.capture.isSome = true := hfits.installed.symm.trans hi
  have hd := Reporter.disarming_uninstall h.grows.within (hfits.armed hc) hi
  refine h.stop hk hc hd.toStopped ?_
  rintro s ⟨⟩
  obtain ⟨interceptors, heq⟩ := Reporter.uninstall_eq (p := w.platform) hi
  exact ⟨.atRest (by rw [heq]; rfl) (by rw [heq]) hd.idle, by rw [heq]⟩

/-- A session ends without its reporter being uninstalled. -/
theorem drop (h : Routed start w) (hk : w.sessions[k]? = some (some r)) :
    Routed start ⟨r.drop w.platform, w.sessions.set k none⟩ := by
  obtain ⟨hstopped, hhook⟩ := Reporter.stopped_reporter r h.grows.within
  cases hc : r.capture with
  | some c => exact h.stop hk (by rw [hc]; rfl) hstopped nofun
  | none =>
      -- Its observers were not active.
      have hactive : ∀ x, x ∈ (r.drop w.platform).observers ↔ x ∈ w.platform.observers := by
        refine fun x => (hstopped.active x).trans (and_iff_left_of_imp fun hx i hi hix => ?_)
        have hidle := (h.fits k r hk).resting hc i hi
        cases i with
        | panicHook o => exact (hidle.2 x hix).1 hx
        | fatalSignals => cases hix
        | counting => cases hix
      have hnext : (r.drop w.platform).nextObserver = w.platform.nextObserver := hstopped.next
      refine h.set hk ⟨?_, hstopped.within, fun x hx => ?_, fun x hx => ?_⟩ nofun
        (fun j s _ hj => (h.fits j s hj).same hhook hnext hactive) fun hv x hx => ?_
      · exact Nat.le_trans h.grows.next_le (Nat.le_of_eq hnext.symm)
      · rw [hstopped.next]
        exact h.grows.active_lt x ((hactive x).1 hx)
      · exact (hactive x).trans (h.grows.before x hx)
      · exact h.quiet (hv.of_set hk hc) x ((hactive x).1 hx)

/-- All sessions have ended with their process. -/
theorem restart (hs : start.routing.Sound) (hr : p'.routing = start.routing) :
    Routed start ⟨p', w.sessions.map fun _ => none⟩ := by
  have hnone : ∀ (j : Nat) (s : Reporter), (w.sessions.map fun _ => none)[j]? ≠ some (some s) := by
    intro j s hj
    rw [List.getElem?_map] at hj
    obtain ⟨_, -, hj⟩ := Option.map_eq_some_iff.1 hj
    cases hj
  refine ⟨by rw [hr]; exact .refl hs, fun j s hj => absurd hj (hnone j s),
    fun i _ s _ hi => absurd hi (hnone i s), fun _ x hx => ?_⟩
  rw [hr] at hx
  exact hs.active_lt x hx

end Routed

/-- Every step keeps up who records a panic. -/
theorem Step.routed {start : Platform} {w w' : World} {es : List Event} (hs : start.routing.Sound)
    (h : Routed start w) (hst : Step start w es w') : Routed start w' := by
  -- Only arming, disarming and going away matter.
  cases hst with
  | launch hnew => exact h.launch (.new hnew) rfl
  | install k hk hv hi => exact h.install hs hk hv hi
  | refuse k hk hi => exact h.refuse hs hk hi
  | reinstall k hk hi =>
      rw [Reporter.install_of_installed hi]
      exact h.set_same hk rfl rfl rfl rfl
  | uninstall k hk hi => exact h.uninstall hk hi
  | pass k hk hi =>
      rw [Reporter.uninstall_of_not_installed hi]
      exact h.set_same hk rfl rfl rfl rfl
  | @recordFault k r hk fault =>
      refine h.set_same hk (Reporter.routing_recordFault r fault _) ?_ ?_
        (Reporter.isInstalled_recordFault r fault _)
      · rw [Reporter.recordFault_eq]
      · rw [Reporter.recordFault_eq]
  | panic k hk hc message thread => exact h.platform_only (Platform.routing_panic _ message thread)
  | panicVacant hv message thread => exact h.platform_only (Platform.routing_panic _ message thread)
  | signal s hc => exact h.platform_only (Platform.Records.recordSignal _ _ _).routing
  | status => exact h.platform_only rfl
  | drop k hk => exact h.drop hk
  | restart _ _ hr => exact .restart hs hr
  | elsewhere _ hr => exact h.platform_only hr

end Program
end Vigil
