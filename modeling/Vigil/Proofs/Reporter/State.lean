import Vigil.Proofs.Reporter.Program

/-!
# Reporter — the state of a reporter

Where a reporter is in its life is kept in two places: what it stores itself, and what its capture
has counted.  Both follow from the events of the program: a capture is what the events make of a new
one (`replay`), and what a reporter stores is decided by the last time that it was installed or
uninstalled (`lifecycle`).

* `Step.captures`, `Step.turn`: what a step does to each capture, and to each reporter.
* `Tracked`: captures and reporters are what the events say.

**Four states** (`state_machine`): what the state of a reporter is at any time.
-/

namespace Vigil.Program
open Fault (Capture Written)
open Interceptor (observesPanics)
open Sessions (World)

/-! ### What the events say -/

namespace Event

/-- The session whose reporter was installed or uninstalled. -/
def session? : Event → Option Nat
  | .installed k _ => some k
  | .uninstalled k => some k
  | _ => none

/-- Whether a fault was recorded with a capture, not while a signal was handled. -/
def records (i : Nat) : Event → Bool
  | .recorded c _ => c == i
  | _ => false

/-- Whether a signal was handled with a capture. -/
def signals (i : Nat) : Event → Bool
  | .signalled c _ _ => c == i
  | _ => false

/-- Whether a fault was recorded with a capture in any way. -/
def uses (i : Nat) (e : Event) : Bool := e.records i || e.signals i

/-- What an event makes of the capture with a number. -/
def apply (i : Nat) (c : Capture) (e : Event) : Capture :=
  if e.records i then c.count else if e.signals i then Platform.afterSignal c else c

end Event

/-- What events make of the capture with a number. -/
def replay (i : Nat) (es : List Event) (c : Capture) : Capture := es.foldl (Event.apply i) c

/-- The last time that the reporter of a session was installed or uninstalled. -/
def lifecycle (k : Nat) (es : List Event) : Option Event :=
  es.reverse.find? fun e => e.session? = some k

/-- What happened since then. -/
def since (k : Nat) (es : List Event) : List Event :=
  (es.reverse.takeWhile fun e => e.session? ≠ some k).reverse

/-- The state of a reporter after events: what the last time that it was installed or uninstalled
says, and if it was installed then, whether a fault was recorded since with the capture that this
made. -/
def stateAfter (k : Nat) (es : List Event) : ReporterState :=
  match lifecycle k es with
  | none => .idle
  | some (.installed _ c) => if (since k es).any (·.uses c) then .faulted else .armed
  | some _ => .uninstalled

section Events
variable {es fs : List Event} {i k : Nat} {c : Capture} {e : Event}

theorem replay_append : replay i (es ++ fs) c = replay i fs (replay i es c) := List.foldl_append

/-- What a capture has counted, and whether it has seen a signal. -/
theorem replay_counts (i : Nat) (es : List Event) (c : Capture) :
    (replay i es c).recorded = c.recorded + es.countP (·.records i) +
        (if c.signalled = false ∧ es.any (·.signals i) then 1 else 0) ∧
      (replay i es c).signalled = (c.signalled || es.any (·.signals i)) ∧
      (replay i es c).registry = c.registry ∧ (replay i es c).logPath = c.logPath ∧
      (replay i es c).logFile = c.logFile := by
  induction es generalizing c with
  | nil => simp [replay]
  | cons e es ih =>
      have hstep : replay i (e :: es) c = replay i es (e.apply i c) := rfl
      rw [hstep]
      obtain ⟨h₁, h₂, h₃, h₄, h₅⟩ := ih (e.apply i c)
      rw [h₁, h₂, h₃, h₄, h₅]
      cases e with
      | recorded j report =>
          by_cases hj : (j == i) = true
          · simp [Event.apply, Event.records, Event.signals, hj, Capture.count]
            omega
          · simp [Event.apply, Event.records, Event.signals, hj]
      | signalled j opened report =>
          by_cases hj : (j == i) = true
          · cases hs : c.signalled <;>
              simp [Event.apply, Event.records, Event.signals, hj, hs, Platform.afterSignal,
                Capture.signal, Capture.count]
            omega
          · simp [Event.apply, Event.records, Event.signals, hj]
      | _ => simp [Event.apply, Event.records, Event.signals]

theorem apply_of_not_uses (h : e.uses i = false) : e.apply i c = c := by
  rw [Event.uses, Bool.or_eq_false_iff] at h
  rw [Event.apply, h.1, h.2]
  rfl

/-- Events that do not use a capture leave it alone. -/
theorem replay_of_not_uses (h : ∀ e ∈ es, e.uses i = false) : replay i es c = c := by
  induction es generalizing c with
  | nil => rfl
  | cons e es ih =>
      have hstep : replay i (e :: es) c = replay i es (e.apply i c) := rfl
      rw [hstep, apply_of_not_uses (h e List.mem_cons_self)]
      exact ih fun e he => h e (List.mem_cons_of_mem _ he)

theorem lifecycle_append :
    lifecycle k (es ++ fs) = (lifecycle k fs).or (lifecycle k es) := by
  rw [lifecycle, List.reverse_append, List.find?_append, lifecycle, lifecycle]

theorem lifecycle_append_of_none (es : List Event) (h : lifecycle k fs = none) :
    lifecycle k (es ++ fs) = lifecycle k es := by
  rw [lifecycle_append, h]
  rfl

theorem lifecycle_concat (es : List Event) (h : e.session? = some k) :
    lifecycle k (es ++ [e]) = some e := by
  rw [lifecycle_append]
  simp [lifecycle, h]

theorem lifecycle_eq_none : lifecycle k es = none ↔ ∀ e ∈ es, e.session? ≠ some k := by
  simp only [lifecycle, List.find?_eq_none, List.mem_reverse, decide_eq_true_eq, ne_eq]

theorem lifecycle_singleton_of_ne (h : e.session? ≠ some k) : lifecycle k [e] = none :=
  lifecycle_eq_none.2 (List.forall_mem_singleton.2 h)

theorem lifecycle_replicate_of_ne (n : Nat) (h : e.session? ≠ some k) :
    lifecycle k (List.replicate n e) = none :=
  lifecycle_eq_none.2 fun _ hf => List.eq_of_mem_replicate hf ▸ h

theorem since_append_of_none (es : List Event) (h : lifecycle k fs = none) :
    since k (es ++ fs) = since k es ++ fs := by
  have hall : ∀ e ∈ fs.reverse, decide (e.session? ≠ some k) = true := fun e he =>
    decide_eq_true (lifecycle_eq_none.1 h e (List.mem_reverse.1 he))
  rw [since, List.reverse_append, List.takeWhile_append_of_pos hall, List.reverse_append,
    List.reverse_reverse, since]

theorem since_concat (es : List Event) (h : e.session? = some k) : since k (es ++ [e]) = [] := by
  simp [since, h]

end Events

/-! ### The captures -/

/-- A capture that was just made. -/
def blank (registry : Nat) (logPath : String) (logFile : Option Nat) : Capture :=
  ⟨registry, logPath, logFile, false, 0⟩

/-- Events made these captures of those; the first `n` are not looked at. -/
structure Develops (n : Nat) (fs : List Event) (cs cs' : List Capture) : Prop where
  le : cs.length ≤ cs'.length
  old : ∀ i c, n ≤ i → cs[i]? = some c → cs'[i]? = some (replay i fs c)
  new : ∀ i c, cs.length ≤ i → cs'[i]? = some c →
    c = replay i fs (blank c.registry c.logPath c.logFile)
  unborn : ∀ i, cs'.length ≤ i → ∀ e ∈ fs, e.uses i = false

namespace Develops
variable {n : Nat} {fs gs : List Event} {cs cs₁ cs' : List Capture}

/-- Nothing happens to the captures. -/
theorem same (n : Nat) (cs : List Capture) (hf : ∀ i, ∀ e ∈ fs, e.uses i = false) :
    Develops n fs cs cs where
  le := Nat.le_refl _
  old i c _ hc := by rwa [replay_of_not_uses (hf i)]
  new i c hi hc := absurd (List.getElem?_eq_some_iff.1 hc).1 (Nat.not_lt.2 hi)
  unborn i _ := hf i

/-- A capture is made. -/
theorem concat (n : Nat) (cs : List Capture) (registry : Nat) (logPath : String)
    (logFile : Option Nat) (hf : ∀ i, ∀ e ∈ fs, e.uses i = false) :
    Develops n fs cs (cs ++ [blank registry logPath logFile]) where
  le := by
    rw [List.length_append]
    exact Nat.le_add_right _ _
  old i c _ hc := by
    rw [replay_of_not_uses (hf i), List.getElem?_append_left (List.getElem?_eq_some_iff.1 hc).1]
    exact hc
  new i c hi hc := by
    rw [replay_of_not_uses (hf i)]
    rw [List.getElem?_append_right hi] at hc
    cases List.mem_singleton.1 (List.mem_of_getElem? hc)
    rfl
  unborn i _ := hf i

theorem trans (hn : n ≤ cs.length) (h : Develops n fs cs cs₁) (t : Develops n gs cs₁ cs') :
    Develops n (fs ++ gs) cs cs' where
  le := Nat.le_trans h.le t.le
  old i c hi hc := by
    rw [replay_append]
    exact t.old i _ hi (h.old i c hi hc)
  new i c hi hc := by
    rw [replay_append]
    rcases Nat.lt_or_ge i cs₁.length with hlt | hge
    · -- It was made first, and used then.
      have hc₁ := List.getElem?_eq_getElem hlt
      have hnew := h.new i _ hi hc₁
      have hold := t.old i _ (Nat.le_trans hn hi) hc₁
      cases hc.symm.trans hold
      obtain ⟨-, -, hr, hl, hf⟩ := replay_counts i gs cs₁[i]
      rw [hr, hl, hf, ← hnew]
    · rw [replay_of_not_uses (h.unborn i hge)]
      exact t.new i c hge hc
  unborn i hi e he := by
    rcases List.mem_append.1 he with he | he
    · exact h.unborn i (Nat.le_trans t.le hi) e he
    · exact t.unborn i hi e he

/-- Captures are changed one by one, and none is made. -/
theorem of_map (hl : cs'.length = cs.length)
    (h : ∀ i, n ≤ i → cs'[i]? = cs[i]?.map (replay i fs))
    (hf : ∀ i, cs.length ≤ i → ∀ e ∈ fs, e.uses i = false) : Develops n fs cs cs' where
  le := Nat.le_of_eq hl.symm
  old i c hi hc := by rw [h i hi, hc, Option.map_some]
  new i c hi hc := absurd (List.getElem?_eq_some_iff.1 hc).1 (Nat.not_lt.2 (hl ▸ hi))
  unborn i hi := hf i (hl ▸ hi)

/-- A fault is recorded with a capture that is there. -/
theorem record {p : Platform} {i : Nat} (hi : i < p.captures.length) (fault : Fault)
    (report : Written) :
    Develops n [.recorded i report] p.captures (p.record i fault).1.captures := by
  refine .of_map (Platform.length_record p i fault) (fun j _ => ?_) fun j hj e he => ?_
  · rw [Platform.captures_record]
    refine congrArg (p.captures[j]?.map ·) (funext fun c => ?_)
    simp only [replay, List.foldl_cons, List.foldl_nil, Event.apply, Event.records,
      Event.signals, beq_iff_eq, Platform.counted, Capture.count, @eq_comm _ i j]
    split <;> rfl
  · cases List.mem_singleton.1 he
    have hne : (i == j) = false := beq_eq_false_iff_ne.2 (by omega)
    simp [Event.uses, Event.records, Event.signals, hne]

/-- A fault is recorded with a capture that is not looked at. -/
theorem record_lt {p : Platform} {i : Nat} (hi : i < n) (fault : Fault) :
    Develops n [] p.captures (p.record i fault).1.captures := by
  refine .of_map (Platform.length_record p i fault) (fun j hj => ?_)
    fun _ _ => List.forall_mem_nil _
  rw [Platform.captures_record, if_neg (by omega)]
  rfl

theorem recordAll_lt {p : Platform} {is : List Nat} (hi : ∀ i ∈ is, i < n)
    (hn : n ≤ p.captures.length) (fault : Fault) :
    Develops n [] p.captures (p.recordAll is fault).captures := by
  induction is generalizing p with
  | nil => exact .same n _ fun _ => List.forall_mem_nil _
  | cons i is ih =>
      have hone := record_lt (p := p) (hi i List.mem_cons_self) fault
      exact hone.trans hn (ih (fun j hj => hi j (List.mem_cons_of_mem i hj))
        (Nat.le_trans hn hone.le))

/-- A fault is recorded several times with one capture. -/
theorem recordAll_replicate {p : Platform} {i : Nat} (hi : i < p.captures.length)
    (hn : n ≤ p.captures.length) (m : Nat) (fault : Fault) (report : Written) :
    Develops n (List.replicate m (.recorded i report)) p.captures
      (p.recordAll (List.replicate m i) fault).captures := by
  induction m generalizing p with
  | zero => exact .same n _ fun _ => List.forall_mem_nil _
  | succ m ih =>
      have hone := record (n := n) hi fault report
      exact hone.trans hn (ih (Nat.lt_of_lt_of_le hi hone.le) (Nat.le_trans hn hone.le))

/-- A signal is handled with a capture that is there. -/
theorem recordSignal {p : Platform} {i : Nat} (hi : i < p.captures.length) (fault : Fault)
    (opened : Bool) (report : Written) :
    Develops n [.signalled i opened report] p.captures (p.recordSignal i fault).1.captures := by
  refine .of_map (Platform.length_recordSignal p i fault) (fun j _ => ?_) fun j hj e he => ?_
  · rw [Platform.captures_recordSignal]
    by_cases h : j = i
    · subst h
      rw [if_pos rfl]
      refine congrArg (p.captures[j]?.map ·) (funext fun c => ?_)
      simp [replay, Event.apply, Event.records, Event.signals]
    · have hne : (i == j) = false := beq_eq_false_iff_ne.2 (Ne.symm h)
      rw [if_neg h]
      cases p.captures[j]? with
      | none => rfl
      | some c => simp [replay, Event.apply, Event.records, Event.signals, hne]
  · cases List.mem_singleton.1 he
    have hne : (i == j) = false := beq_eq_false_iff_ne.2 (by omega)
    simp [Event.uses, Event.records, Event.signals, hne]

end Develops

/-- The observers that are not from this program record with captures that are not, either. -/
structure Begins (start : Platform) : Prop where
  sound : start.routing.Sound
  foreign : ∀ c ∈ start.routing.captures, c < start.captures.length

/-- The capture of a reporter is there, was made by this program, and leads to the reporter's
log. -/
def Holds (start : Platform) (w : World) (r : Reporter) (c : Nat) : Prop :=
  start.captures.length ≤ c ∧
    ∃ x, w.platform.captures[c]? = some x ∧ x.registry = r.registry ∧ x.logPath = r.logPath

section Step
variable {start : Platform} {w w' : World} {fs : List Event} {k : Nat} {r : Reporter}

theorem captures_addCapture (p : Platform) (registry : Nat) (logPath : String) : ∃ logFile,
    (p.addCapture registry logPath).captures = p.captures ++ [blank registry logPath logFile] :=
  ⟨(p.files.openAppend logPath).2.toOption, rfl⟩

theorem captures_prepared (r : Reporter) (p : Platform) : ∃ logFile,
    (r.prepared p).captures = p.captures ++ [blank r.registry r.logPath logFile] := by
  obtain ⟨logFile, h⟩ :=
    captures_addCapture (r.leaveMarker (r.takePrior p).1) r.registry r.logPath
  rw [(Reporter.leaveMarker_eq r _).2, (Reporter.takePrior_rest r p).1] at h
  exact ⟨logFile, h⟩

theorem captures_refused {r' : Reporter} {p p' : Platform} {e : Error}
    (h : r.install p = (r', p', .error e)) : p'.captures = (r.prepared p).captures := by
  obtain ⟨q, hq, rfl⟩ := Reporter.refused_untouched h
  exact (Reporter.deleteMarker_eq r _ q).2.trans hq.2

theorem captures_drop (r : Reporter) (p : Platform) : (r.drop p).captures = p.captures := by
  rw [Reporter.drop]
  induction r.interceptors generalizing p with
  | nil => rfl
  | cons i is ih => exact (ih (i.drop p)).trans (i.untouched_drop p).2

theorem captures_uninstall (r : Reporter) (p : Platform) :
    (r.uninstall p).2.captures = p.captures := by
  rw [Reporter.uninstall]
  split
  next =>
    exact (Reporter.deleteMarker_eq _ _ _).2.trans
      (Interceptor.untouched_disarmAll r.interceptors p).2
  next => rfl

/-- What a step does to the captures of the program. -/
theorem Step.captures (h₀ : Begins start) (hr : Routed start w)
    (hn : start.captures.length ≤ w.platform.captures.length)
    (hh : ∀ (k : Nat) (r : Reporter) (c : Nat), w.sessions[k]? = some (some r) →
      r.capture = some c → Holds start w r c)
    (h : Step start w fs w') :
    Develops start.captures.length fs w.platform.captures w'.platform.captures := by
  have hheld : ∀ {k : Nat} {r : Reporter} {c : Nat}, w.sessions[k]? = some (some r) →
      r.capture = some c → c < w.platform.captures.length := fun hk hc => by
    obtain ⟨-, x, hx, -⟩ := hh _ _ _ hk hc
    exact (List.getElem?_eq_some_iff.1 hx).1
  have hused : ∀ {e : Event}, (∀ i, e.uses i = false) → ∀ i, ∀ f ∈ [e], f.uses i = false :=
    fun he i f hf => List.mem_singleton.1 hf ▸ he i
  cases h with
  | launch => exact .same _ _ (hused fun _ => rfl)
  | install k hk hv hi =>
      obtain ⟨logFile, hcaptures⟩ := captures_prepared _ w.platform
      rw [(Reporter.install_ok (hv _ _ hk) hi).2.2.2, hcaptures]
      exact .concat _ _ _ _ _ (hused fun _ => rfl)
  | refuse k hk hi =>
      obtain ⟨logFile, hcaptures⟩ := captures_prepared _ w.platform
      rw [captures_refused hi, hcaptures]
      exact .concat _ _ _ _ _ fun _ => List.forall_mem_nil _
  | reinstall k hk hi =>
      rw [Reporter.install_of_installed hi]
      exact .same _ _ fun _ => List.forall_mem_nil _
  | uninstall k hk hi =>
      rw [captures_uninstall]
      exact .same _ _ (hused fun _ => rfl)
  | pass k hk hi =>
      rw [captures_uninstall]
      exact .same _ _ fun _ => List.forall_mem_nil _
  | @recordFault k r hk fault =>
      rw [Reporter.snd_recordFault]
      cases hc : r.capture with
      | some c => exact .record (hheld hk hc) fault _
      | none =>
          obtain ⟨logFile, hmade⟩ := captures_addCapture w.platform r.registry r.logPath
          have hblank : Develops start.captures.length [] w.platform.captures _ :=
            .concat _ _ r.registry r.logPath logFile fun _ => List.forall_mem_nil _
          rw [← hmade] at hblank
          refine hblank.trans hn (.record ?_ fault _)
          rw [hmade, List.length_append]
          exact Nat.lt_succ_self _
  | @panic k r c hk hc message thread =>
      have hrouting : w.platform.routing.captures = _ := (hr.fits k r hk).captures c hc
      have hlt := hheld hk hc
      have hown := Develops.recordAll_replicate hlt hn (r.interceptors.countP observesPanics)
        (w.platform.panicFault message thread)
        (r.written w.platform (w.platform.panicFault message thread))
      have hothers := Develops.recordAll_lt (p := w.platform.recordAll (List.replicate
        (r.interceptors.countP observesPanics) c) (w.platform.panicFault message thread)) h₀.foreign
        (Nat.le_trans hn hown.le) (w.platform.panicFault message thread)
      have hall := hown.trans hn hothers
      rw [List.append_nil, ← Platform.recordAll_append, ← hrouting] at hall
      exact hall
  | panicVacant hv message thread =>
      have hrouting := hr.grows.captures_of_quiet h₀.sound (hr.quiet hv)
      have hforeign := h₀.foreign
      rw [← hrouting] at hforeign
      exact .recordAll_lt hforeign hn (w.platform.panicFault message thread)
  | signal s hc => exact .recordSignal (List.getElem?_eq_some_iff.1 hc).1 _ _ _
  | status => exact .same _ _ fun _ => List.forall_mem_nil _
  | drop k hk =>
      rw [captures_drop]
      exact .same _ _ fun _ => List.forall_mem_nil _
  | restart hf hc hr =>
      rw [hc]
      exact .same _ _ fun _ => List.forall_mem_nil _
  | elsewhere hc hr =>
      rw [hc]
      exact .same _ _ (hused fun _ => rfl)

end Step

/-! ### The reporters -/

/-- What a step from `w` to `w'` with events `fs` made of a reporter: `s` is what it is now. -/
inductive Turn (w : World) (fs : List Event) (w' : World) (k : Nat) (s : Reporter) : Prop where
  | stays (h : w.sessions[k]? = some (some s)) (hf : lifecycle k fs = none)
  | begins (hk : k = w.sessions.length) (hs : s.stored = .idle) (hc : s.capture = none)
      (hf : fs = [.launched k (s.interceptors.countP observesPanics)])
  | installed {r : Reporter} (h : w.sessions[k]? = some (some r)) (hn : r.capture = none)
      (hs : s = { r with
        interceptors := s.interceptors, prior := s.prior, stored := .armed
        capture := some w.platform.captures.length })
      (hk : s.interceptors.countP observesPanics = r.interceptors.countP observesPanics)
      (hc : ∃ logFile, w'.platform.captures[w.platform.captures.length]? =
        some (blank s.registry s.logPath logFile))
      (hf : fs = [.installed k w.platform.captures.length])
  | refused {r : Reporter} (h : w.sessions[k]? = some (some r)) (hn : r.capture = none)
      (hs : s = { r with interceptors := s.interceptors, prior := s.prior })
      (hk : s.interceptors.countP observesPanics = r.interceptors.countP observesPanics)
      (hf : fs = [])
  | uninstalled {r : Reporter} (h : w.sessions[k]? = some (some r))
      (hc : r.capture.isSome = true)
      (hs : s = { r with
        interceptors := s.interceptors, capture := none, stored := .uninstalled })
      (hk : s.interceptors.countP observesPanics = r.interceptors.countP observesPanics)
      (hf : fs = [.uninstalled k])
  | faulted {r : Reporter} {report : Written} (h : w.sessions[k]? = some (some r))
      (hs : s = { r with stored := if r.stored = .armed then .faulted else r.stored })
      (hf : fs = [.recorded (r.capture.getD w.platform.captures.length) report])

section Turn
variable {start : Platform} {w w' : World} {fs : List Event} {k : Nat} {s : Reporter}

/-- Every reporter stays as it is, or has its turn. -/
theorem Step.turn (hsound : start.routing.Sound) (hr : Routed start w) (h : Step start w fs w')
    (hs : w'.sessions[k]? = some (some s)) : Turn w fs w' k s := by
  cases h with
  | launch hnew =>
      rcases session_concat hs with ⟨rfl, rfl⟩ | hx
      · exact .begins rfl rfl rfl rfl
      · exact .stays hx (lifecycle_singleton_of_ne nofun)
  | @install j r r' p' found hk hv hi =>
      rcases session_set hs with ⟨rfl, hx⟩ | ⟨hjk, hx⟩
      · cases hx
        have hn := hv _ _ hk
        have harming := Reporter.arming_install (hr.grows.sound hsound)
          ((hr.fits _ _ hk).resting hn) hn hi
        obtain ⟨logFile, hcaptures⟩ := captures_prepared r w.platform
        obtain ⟨-, ⟨interceptors, rfl⟩, hun⟩ := Reporter.install_ok hn hi
        refine .installed hk hn (by rw [Reporter.nextCapture_eq]) harming.kinds ⟨logFile, ?_⟩ rfl
        rw [hun.2, hcaptures]
        exact List.getElem?_concat_length
      · exact .stays hx (lifecycle_singleton_of_ne fun h => hjk (Option.some.inj h).symm)
  | @refuse j r r' p' e hk hi =>
      rcases session_set hs with ⟨rfl, hx⟩ | ⟨hjk, hx⟩
      · cases hx
        have hn := Reporter.capture_of_refused hi
        obtain ⟨-, -, -, hkinds⟩ := Reporter.grows_refused (hr.grows.sound hsound)
          ((hr.fits _ _ hk).resting hn) hn hi
        exact .refused hk hn (Reporter.refused_eq hi) hkinds rfl
      · exact .stays hx rfl
  | @reinstall j r hk hi =>
      rw [Reporter.install_of_installed hi] at hs
      rcases session_set hs with ⟨rfl, hx⟩ | ⟨-, hx⟩
      · cases hx
        exact .stays hk rfl
      · exact .stays hx rfl
  | @uninstall j r hk hi =>
      rcases session_set hs with ⟨rfl, hx⟩ | ⟨hjk, hx⟩
      · have hfits := hr.fits _ _ hk
        have hc := hfits.installed.symm.trans hi
        have hd := Reporter.disarming_uninstall hr.grows.within (hfits.armed hc) hi
        obtain ⟨interceptors, heq⟩ := Reporter.uninstall_eq (p := w.platform) hi
        rw [heq] at hd hx
        cases hx
        exact .uninstalled hk hc rfl hd.kinds rfl
      · exact .stays hx (lifecycle_singleton_of_ne fun h => hjk (Option.some.inj h).symm)
  | @pass j r hk hi =>
      rw [Reporter.uninstall_of_not_installed hi] at hs
      rcases session_set hs with ⟨rfl, hx⟩ | ⟨-, hx⟩
      · cases hx
        exact .stays hk rfl
      · exact .stays hx rfl
  | @recordFault j r hk fault =>
      rcases session_set hs with ⟨rfl, hx⟩ | ⟨-, hx⟩
      · cases hx
        exact .faulted hk (Reporter.recordFault_eq r fault _) rfl
      · exact .stays hx (lifecycle_singleton_of_ne nofun)
  | panic j hk hc message thread => exact .stays hs (lifecycle_replicate_of_ne _ nofun)
  | panicVacant hv message thread => exact .stays hs rfl
  | signal sig hc => exact .stays hs (lifecycle_singleton_of_ne nofun)
  | status => exact .stays hs rfl
  | drop j hk =>
      rcases session_set hs with ⟨-, hx⟩ | ⟨-, hx⟩
      · cases hx
      · exact .stays hx rfl
  | restart _ _ _ =>
      rw [List.getElem?_map] at hs
      obtain ⟨_, -, hs⟩ := Option.map_eq_some_iff.1 hs
      cases hs
  | elsewhere _ _ => exact .stays hs (lifecycle_singleton_of_ne nofun)

end Turn

/-! ### What the events make of everything -/

/-- What the reporter of a session stores follows from the last time that it was installed or
uninstalled. -/
inductive Follows (es : List Event) (k : Nat) (r : Reporter) : Prop where
  | idle (hl : lifecycle k es = none) (hs : r.stored = .idle) (hc : r.capture = none)
  | uninstalled (hl : lifecycle k es = some (.uninstalled k)) (hs : r.stored = .uninstalled)
      (hc : r.capture = none)
  | installed {c : Nat} (hl : lifecycle k es = some (.installed k c)) (hc : r.capture = some c)
      (hs : r.stored = .armed ∨ r.stored = .faulted ∧ (since k es).any (·.uses c) = true)
      (hu : es.any (·.uses c) = (since k es).any (·.uses c))

/-- What is true after the events `es`. -/
structure Tracked (start : Platform) (es : List Event) (w : World) : Prop where
  routed : Routed start w
  develops : Develops start.captures.length es start.captures w.platform.captures
  holds : ∀ (k : Nat) (r : Reporter) (c : Nat), w.sessions[k]? = some (some r) →
    r.capture = some c → Holds start w r c
  follows : ∀ (k : Nat) (r : Reporter), w.sessions[k]? = some (some r) → Follows es k r
  /-- Nothing was installed or uninstalled in sessions to come. -/
  fresh : ∀ k, w.sessions.length ≤ k → lifecycle k es = none

section Tracked
variable {start : Platform} {w w' : World} {es fs : List Event} {k c : Nat} {r s : Reporter}

/-- A capture that is there keeps leading to the same log. -/
theorem Holds.develops (h : Holds start w r c)
    (hd : Develops start.captures.length fs w.platform.captures w'.platform.captures)
    (hr : s.registry = r.registry) (hl : s.logPath = r.logPath) : Holds start w' s c := by
  obtain ⟨hle, x, hx, hxr, hxl⟩ := h
  obtain ⟨-, -, hreg, hlog, -⟩ := replay_counts c fs x
  exact ⟨hle, _, hd.old c x hle hx, by rw [hreg, hxr, hr], by rw [hlog, hxl, hl]⟩

/-- Later events of others do not matter. -/
theorem Follows.append (h : Follows es k r) (hf : lifecycle k fs = none) :
    Follows (es ++ fs) k r := by
  cases h with
  | idle hl hs hc => exact .idle ((lifecycle_append_of_none es hf).trans hl) hs hc
  | uninstalled hl hs hc => exact .uninstalled ((lifecycle_append_of_none es hf).trans hl) hs hc
  | installed hl hc hs hu =>
      have hsince := since_append_of_none es hf
      refine .installed ((lifecycle_append_of_none es hf).trans hl) hc
        (hs.imp_right fun hs => ⟨hs.1, ?_⟩) ?_
      · rw [hsince, List.any_append, hs.2]
        rfl
      · rw [hsince, List.any_append, List.any_append, hu]

/-- Only sessions that are there are installed or uninstalled. -/
theorem Step.sessions (h : Step start w fs w') :
    w.sessions.length ≤ w'.sessions.length ∧ ∀ k, w.sessions.length ≤ k → lifecycle k fs = none := by
  have hset : ∀ {k : Nat} {x : Option Reporter},
      w.sessions.length ≤ (w.sessions.set k x).length :=
    Nat.le_of_eq List.length_set.symm
  have hother : ∀ {k : Nat} {r : Reporter} {e : Event}, w.sessions[k]? = some (some r) →
      e.session? = some k → ∀ j, w.sessions.length ≤ j → lifecycle j [e] = none :=
    fun hk he j hj => lifecycle_singleton_of_ne fun h => by
      cases he.symm.trans h
      exact Nat.not_lt.2 hj (List.getElem?_eq_some_iff.1 hk).1
  cases h with
  | launch =>
      refine ⟨?_, fun _ _ => lifecycle_singleton_of_ne nofun⟩
      rw [List.length_append]
      exact Nat.le_add_right _ _
  | install k hk => exact ⟨hset, hother hk rfl⟩
  | refuse => exact ⟨hset, fun _ _ => rfl⟩
  | reinstall => exact ⟨hset, fun _ _ => rfl⟩
  | uninstall k hk => exact ⟨hset, hother hk rfl⟩
  | pass => exact ⟨hset, fun _ _ => rfl⟩
  | recordFault => exact ⟨hset, fun _ _ => lifecycle_singleton_of_ne nofun⟩
  | panic => exact ⟨Nat.le_refl _, fun _ _ => lifecycle_replicate_of_ne _ nofun⟩
  | panicVacant => exact ⟨Nat.le_refl _, fun _ _ => rfl⟩
  | signal => exact ⟨Nat.le_refl _, fun _ _ => lifecycle_singleton_of_ne nofun⟩
  | status => exact ⟨Nat.le_refl _, fun _ _ => rfl⟩
  | drop => exact ⟨hset, fun _ _ => rfl⟩
  | restart => exact ⟨Nat.le_of_eq (List.length_map _).symm, fun _ _ => rfl⟩
  | elsewhere => exact ⟨Nat.le_refl _, fun _ _ => lifecycle_singleton_of_ne nofun⟩

/-- A reporter that has its turn goes on as its events say. -/
theorem Turn.follows (h : Tracked start es w) (ht : Turn w fs w' k s) : Follows (es ++ fs) k s := by
  cases ht with
  | stays hk hf => exact (h.follows k s hk).append hf
  | begins hk hs hc hf =>
      subst hf
      exact .idle ((lifecycle_append_of_none es rfl).trans (h.fresh k (Nat.le_of_eq hk.symm))) hs hc
  | installed hk hn hs _ _ hf =>
      subst hf
      refine .installed (lifecycle_concat es rfl) (by rw [hs]) (Or.inl (by rw [hs])) ?_
      -- Nobody used the capture before it was there.
      rw [since_concat es rfl, List.any_append, List.any_eq_false.2 fun e he => ?_]
      · rfl
      · rw [h.develops.unborn _ (Nat.le_refl _) e he]
        exact Bool.false_ne_true
  | @refused r hk hn hs _ hf =>
      subst hf
      rw [List.append_nil]
      cases h.follows k r hk with
      | idle hl hr hc => exact .idle hl (by rw [hs, hr]) (by rw [hs, hc])
      | uninstalled hl hr hc => exact .uninstalled hl (by rw [hs, hr]) (by rw [hs, hc])
      | installed hl hc hr _ => cases hn.symm.trans hc
  | uninstalled hk hc hs _ hf =>
      subst hf
      exact .uninstalled (lifecycle_concat es rfl) (by rw [hs]) (by rw [hs])
  | @faulted r report hk hs hf =>
      subst hf
      have hl : lifecycle k (es ++ [.recorded (r.capture.getD w.platform.captures.length) report]) =
          lifecycle k es := lifecycle_append_of_none es rfl
      cases h.follows k r hk with
      | idle he hr hc => exact .idle (hl.trans he) (by rw [hs, hr]; rfl) (by rw [hs, hc])
      | uninstalled he hr hc =>
          exact .uninstalled (hl.trans he) (by rw [hs, hr]; rfl) (by rw [hs, hc])
      | @installed c he hc hr hu =>
          have hsince := since_append_of_none es
            (rfl : lifecycle k [.recorded (r.capture.getD w.platform.captures.length) report] = none)
          have hused : Event.uses c (.recorded (r.capture.getD w.platform.captures.length) report) =
              true := by
            rw [hc]
            simp [Event.uses, Event.records]
          refine .installed (hl.trans he) (by rw [hs, hc]) (Or.inr ⟨?_, ?_⟩) ?_
          · rw [hs]
            rcases hr with hr | ⟨hr, -⟩
            · exact if_pos hr
            · simp only [hr, if_neg (by decide : ¬ ReporterState.faulted = .armed)]
          · simp only [hsince, List.any_append, List.any_cons, hused, Bool.true_or, Bool.or_true]
          · simp only [hsince, List.any_append, hu]

theorem Turn.holds (h : Tracked start es w)
    (hd : Develops start.captures.length fs w.platform.captures w'.platform.captures)
    (ht : Turn w fs w' k s) (hc : s.capture = some c) : Holds start w' s c := by
  cases ht with
  | stays hk hf => exact (h.holds k s c hk hc).develops hd rfl rfl
  | begins hk hs hn hf => cases hn.symm.trans hc
  | @installed r hk hn hs _ hx hf =>
      rw [hs] at hc
      cases hc
      obtain ⟨logFile, hx⟩ := hx
      exact ⟨h.develops.le, _, hx, rfl, rfl⟩
  | refused hk hn hs _ hf =>
      rw [hs] at hc
      cases hn.symm.trans hc
  | uninstalled hk _ hs _ hf =>
      rw [hs] at hc
      cases hc
  | @faulted r report hk hs hf =>
      have hc' : r.capture = some c := by
        rw [hs] at hc
        exact hc
      exact (h.holds k r c hk hc').develops hd (by rw [hs]) (by rw [hs])

theorem Step.tracked (h₀ : Begins start) (h : Tracked start es w) (hst : Step start w fs w') :
    Tracked start (es ++ fs) w' := by
  have hd := hst.captures h₀ h.routed h.develops.le h.holds
  have hturn : ∀ {k : Nat} {s : Reporter}, w'.sessions[k]? = some (some s) → Turn w fs w' k s :=
    fun hk => hst.turn h₀.sound h.routed hk
  obtain ⟨hle, hnone⟩ := hst.sessions
  refine ⟨hst.routed h₀.sound h.routed, h.develops.trans (Nat.le_refl _) hd,
    fun k s c hk hc => (hturn hk).holds h hd hc, fun k s hk => (hturn hk).follows h, fun k hk => ?_⟩
  have hk' := Nat.le_trans hle hk
  exact (lifecycle_append_of_none es (hnone k hk')).trans (h.fresh k hk')

/-- What is true after a run. -/
theorem tracked_run {ess : List (List Event)} (h₀ : Begins start)
    (h : Run (Step start) ⟨start, []⟩ ess w) : Tracked start ess.flatten w := by
  have hnone : ∀ (k : Nat) (r : Reporter), ([] : List (Option Reporter))[k]? ≠ some (some r) :=
    fun k r hk => nomatch (List.getElem?_nil (i := k)).symm.trans hk
  have hinit : Tracked start [] ⟨start, []⟩ :=
    { routed := {
        grows := .refl h₀.sound
        fits := fun k r hk => absurd hk (hnone k r)
        one := fun j _ r _ hj => absurd hj (hnone j r)
        quiet := fun _ => h₀.sound.active_lt }
      develops := .same _ _ fun _ => List.forall_mem_nil _
      holds := fun k r _ hk => absurd hk (hnone k r)
      follows := fun k r hk => absurd hk (hnone k r)
      fresh := fun _ _ => rfl }
  refine Run.history (I := fun ess w => Tracked start (List.flatten ess) w) hinit ?_ h
  intro ess w fs w' hw hst
  rw [List.flatten_append, List.flatten_singleton]
  exact hst.tracked h₀ hw

end Tracked

/-! ### Four states -/

/-- A capture has counted something exactly if it was used. -/
theorem recorded_pos (i : Nat) (es : List Event) (registry : Nat) (logPath : String)
    (logFile : Option Nat) :
    0 < (replay i es (blank registry logPath logFile)).recorded ↔ es.any (·.uses i) = true := by
  obtain ⟨h, -⟩ := replay_counts i es (blank registry logPath logFile)
  have hpos : 0 < es.countP (·.records i) ↔ ∃ e ∈ es, e.records i = true := List.countP_pos_iff
  have huses : es.any (·.uses i) = true ↔
      (∃ e ∈ es, e.records i = true) ∨ es.any (·.signals i) = true := by
    simp only [List.any_eq_true, Event.uses, Bool.or_eq_true]
    constructor
    · rintro ⟨e, he, hr | hs⟩
      · exact Or.inl ⟨e, he, hr⟩
      · exact Or.inr ⟨e, he, hs⟩
    · rintro (⟨e, he, hr⟩ | ⟨e, he, hs⟩)
      · exact ⟨e, he, Or.inl hr⟩
      · exact ⟨e, he, Or.inr hs⟩
  rw [h, huses, ← hpos]
  cases es.any (·.signals i) <;> simp [blank]

/-- **Four states.**  After any run of a program, for each of its reporters:
* it holds a capture exactly if it stores that it is armed, or armed and has seen a fault;
* its state is what the events say: it is uninstalled if the last time that it was installed or
  uninstalled it was uninstalled; if it was installed then, it has seen a fault if one was recorded
  since with the capture that this made, be it directly, by a panic or by a signal, and is armed if
  not; it is idle if it never was either. -/
theorem state_machine {start : Platform} {w : World} {ess : List (List Event)}
    (h₀ : Begins start) (h : Run (Step start) ⟨start, []⟩ ess w) {k : Nat} {r : Reporter}
    (hk : w.sessions[k]? = some (some r)) :
    (r.capture.isSome = true ↔ r.stored = .armed ∨ r.stored = .faulted) ∧
      r.state w.platform = stateAfter k ess.flatten := by
  have ht := tracked_run h₀ h
  rw [stateAfter]
  cases ht.follows k r hk with
  | idle hl hs hc =>
      rw [hl, Reporter.state, hs, hc]
      exact ⟨by simp, rfl⟩
  | uninstalled hl hs hc =>
      rw [hl, Reporter.state, hs, hc]
      exact ⟨by simp, rfl⟩
  | @installed c hl hc hs hu =>
      obtain ⟨hle, x, hx, -⟩ := ht.holds k r c hk hc
      have hrecorded : 0 < x.recorded ↔ (since k ess.flatten).any (·.uses c) = true := by
        rw [ht.develops.new c x hle hx, recorded_pos, hu]
      rw [hl, Reporter.state, hc]
      rcases hs with hs | ⟨hs, hused⟩
      · rw [hs]
        refine ⟨by simp, ?_⟩
        simp only [hx, Option.elim_some, hrecorded]
      · rw [hs]
        refine ⟨by simp, ?_⟩
        simp only [hused, if_true]

/-- On a new platform nobody else records panics. -/
theorem begins_new (files : Tree) (now : Tick) (wall : Instant) (pid : UInt32)
    (site frames : String) : Begins (.new files now wall pid site frames) :=
  ⟨⟨nofun, nofun⟩, nofun⟩

/-- The interceptors of a reporter with two observers of panics, and one between them that refuses
to be armed the first time. -/
def refusingOnce (e : Error) : List Interceptor :=
  [.panicHook {}, .counting { next := [some e] }, .panicHook {}]

theorem isNew_refusingOnce (e : Error) : ∀ i ∈ refusingOnce e, i.IsNew := by
  intro i hi
  rcases List.mem_cons.1 hi with rfl | hi
  · exact (rfl : ({} : PanicObserver) = {})
  · rcases List.mem_cons.1 hi with rfl | hi
    · trivial
    · rw [List.mem_singleton.1 hi]
      exact (rfl : ({} : PanicObserver) = {})

/-- A program can begin with a reporter whose first installation is refused, and the second is
not. -/
theorem run_retried (start : Platform) (markerPath logPath version : String) (registry : Nat)
    (e : Error) :
    ∃ r p, Run (Step start) ⟨start, []⟩
        [[.launched 0 2], [], [.installed 0 (start.captures.length + 1)]] ⟨p, [some r]⟩ ∧
      r.capture = some (start.captures.length + 1) := by
  let new := Reporter.new markerPath logPath version registry (refusingOnce e)
  let x : new.Halt start :=
    ⟨[.panicHook {}], .counting { next := [some e] }, [.panicHook {}], rfl, _, _, rfl, _, _, e, rfl⟩
  obtain ⟨r₁, p₁, hrefused, hinterceptors⟩ : ∃ r₁ p₁, new.install start = (r₁, p₁, .error e) ∧
      r₁.interceptors = [.panicHook { observer := some (new.prepared start).nextObserver },
        .counting {}, .panicHook {}] := ⟨_, _, Reporter.install_of_halt rfl x, rfl⟩
  have hnone : r₁.capture = none := by
    rw [Reporter.refused_eq hrefused]
    rfl
  have harms : r₁.Arms p₁ := by
    rw [Reporter.Arms, hinterceptors]
    rfl
  obtain ⟨r, p, hi⟩ := Reporter.install_of_arms hnone harms
  have hlength : p₁.captures.length = start.captures.length + 1 := by
    obtain ⟨_, hcaptures⟩ := captures_prepared new start
    rw [captures_refused hrefused, hcaptures]
    exact List.length_append
  have hv : Vacant ⟨p₁, [some r₁]⟩ := fun k r hk => by
    cases List.mem_singleton.1 (List.mem_of_getElem? hk)
    exact hnone
  have hrefuse : Step start ⟨start, [some new]⟩ [] ⟨p₁, [some r₁]⟩ := .refuse _ 0 rfl hrefused
  have hinstall : Step start ⟨p₁, [some r₁]⟩ [.installed 0 (start.captures.length + 1)]
      ⟨p, [some r]⟩ := hlength ▸ .install _ 0 rfl hv hi
  refine ⟨r, p, .more (.launch ⟨start, []⟩ (isNew_refusingOnce e)) (.more hrefuse (.one hinstall)),
    ?_⟩
  obtain ⟨-, ⟨_, rfl⟩, -⟩ := Reporter.install_ok hnone hi
  rw [← hlength]
  exact congrArg some (Reporter.nextCapture_eq r₁ p₁)

/-- A fault is recorded directly after an installation, which was refused the first time. -/
theorem state_machine_faulted :
    let start : Platform := .new (.new []) 0 ⟨0, 0, by decide⟩ 7 "" ""
    ∃ w r report, Begins start ∧ Run (Step start) ⟨start, []⟩
        [[.launched 0 2], [], [.installed 0 1], [.recorded 1 report]] w ∧
      w.sessions[0]? = some (some r) ∧ r.state w.platform = .faulted := by
  intro start
  have h₀ : Begins start := begins_new _ _ _ _ _ _
  obtain ⟨r, p, hrun, hc⟩ := run_retried start "m" "log" "1" 0 (.signal "no")
  have hrecord : Step start ⟨p, [some r]⟩ _ _ := .recordFault _ 0 rfl (.signal "SIGSEGV" 11)
  rw [hc] at hrecord
  have hall := hrun.trans (.one hrecord)
  exact ⟨_, _, _, h₀, hall, rfl, (state_machine (k := 0) h₀ hall rfl).2⟩

end Vigil.Program
