import Vigil.Proofs.Platform.Signals
import Vigil.Proofs.Reporter.Observers
import Vigil.Proofs.Reporter.Sessions
import Vigil.Proofs.Reporter.Use

/-!
# Reporter — an installation that is refused

Interceptors are armed in order up to the first that refuses.  An installation that is refused
disarms those again, takes its own marker away and returns the refusal; it does not change where the
reporter is in its life.

* `Counts`: arming counts each interceptor once, and so does disarming.
* `GivenBack`: the one that refuses has done nothing, or gives back the signals that it had taken
  over before the system refused one.
* `read_remove`: no marker that can be read is left.

**A refused installation** (`install_refused`): what all of it comes to (`RolledBack`).  The marker
of an earlier session is taken before an interceptor can refuse, and is not put back
(`install_refused_stale`).
-/

namespace Vigil

namespace Interceptor
variable {c : Nat} {is is' front back armed : List Interceptor} {i : Interceptor}
  {p p₁ p' : Platform} {e : Error} {k : Nat}

/-- Whether it only counts how often it is armed and disarmed. -/
def isCounting : Interceptor → Bool
  | .counting _ => true
  | _ => false

/-! ### How often they are armed and disarmed -/

/-- Interceptors are the same but for what they keep; those that count were armed `n` times, and
disarmed `m` times. -/
structure Counts (n m : Nat) (p p' : Platform) (is is' : List Interceptor) : Prop where
  armed : p'.armed = p.armed + n
  disarmed : p'.disarmed = p.disarmed + m
  kinds : is'.countP isCounting = is.countP isCounting

namespace Counts
variable {n m n' m' : Nat}

theorem cons {i' : Interceptor} (h : Counts n m p p₁ [i] [i']) (t : Counts n' m' p₁ p' is is') :
    Counts (n' + n) (m' + m) p p' (i :: is) (i' :: is') where
  armed := by rw [t.armed, h.armed, Nat.add_assoc, Nat.add_comm n]
  disarmed := by rw [t.disarmed, h.disarmed, Nat.add_assoc, Nat.add_comm m]
  kinds := by
    have hhead := h.kinds
    rw [List.countP_singleton, List.countP_singleton] at hhead
    rw [List.countP_cons, List.countP_cons, t.kinds, hhead]

end Counts

theorem counters_of_redirects (h : p.Redirects p') :
    p'.armed = p.armed ∧ p'.disarmed = p.disarmed := by
  rw [h]
  exact ⟨rfl, rfl⟩

theorem isCounting_arm (i : Interceptor) (c : Nat) (p : Platform) :
    (i.arm c p).1.isCounting = i.isCounting := by
  cases i with
  | panicHook => rfl
  | fatalSignals previous => cases previous <;> rfl
  | counting =>
      rw [arm]
      split <;> rfl

theorem counts_arm {i' : Interceptor} (h : i.arm c p = (i', p', .ok ())) :
    Counts ([i].countP isCounting) 0 p p' [i] [i'] := by
  cases i with
  | panicHook o =>
      simp only [arm, PanicObserver.arm] at h
      split at h <;> (cases h; exact ⟨rfl, rfl, rfl⟩)
  | fatalSignals previous =>
      have hcounters := counters_of_redirects (redirects_arm previous c p)
      have hkind := isCounting_arm (fatalSignals previous) c p
      rw [h] at hcounters hkind
      refine ⟨hcounters.1, hcounters.2, ?_⟩
      rw [List.countP_singleton, List.countP_singleton, hkind]
  | counting =>
      obtain ⟨-, rfl, rfl⟩ := counting_armed h
      exact ⟨rfl, rfl, rfl⟩

theorem counts_disarm (i : Interceptor) (p : Platform) :
    Counts 0 ([i].countP isCounting) p (i.disarm p).2 [i] [(i.disarm p).1] := by
  cases i with
  | panicHook o =>
      simp only [disarm, PanicObserver.disarm]
      split <;> exact ⟨rfl, rfl, rfl⟩
  | fatalSignals previous =>
      have hcounters := counters_of_redirects (.releaseSignals p previous)
      exact ⟨hcounters.1, hcounters.2, rfl⟩
  | counting => exact ⟨rfl, rfl, rfl⟩

/-- Interceptors that are armed count that once each. -/
theorem counts_armAll (h : armAll c is p = (is', p', k, none)) :
    Counts (is.countP isCounting) 0 p p' is is' := by
  induction is generalizing p is' k with
  | nil =>
      cases h
      exact ⟨rfl, rfl, rfl⟩
  | cons i is ih =>
      rw [armAll] at h
      split at h
      next => cases h
      next i' q hi =>
        rcases hrest : armAll c is q with ⟨rest, q', n, refusal⟩
        rw [hrest] at h
        cases h
        rw [countP_cons_singleton]
        exact (counts_arm hi).cons (ih hrest)

/-- Interceptors that are disarmed count that once each. -/
theorem counts_disarmAll (is : List Interceptor) (p : Platform) :
    Counts 0 (is.countP isCounting) p (disarmAll is p).2 is (disarmAll is p).1 := by
  induction is generalizing p with
  | nil => exact ⟨rfl, rfl, rfl⟩
  | cons i is ih =>
      rw [countP_cons_singleton]
      exact (counts_disarm i p).cons (ih _)

/-! ### The one that refuses -/

/-- An interceptor of fatal signals that the system refuses one of has given back those in front of
it, and faults are recorded with no capture. -/
structure GivenBack (c : Nat) (p p' : Platform) (e : Error) : Prop where
  released : ∃ kept q,
    Platform.captureSignals Signal.fatal { p with target := some c } = (kept, q, some e) ∧
      p' = q.releaseSignals kept ∧ (q.answers.Accepts → p'.disposition = p.disposition)
  target : p'.target = none

theorem givenBack {kept : List (Signal × Disposition)} {q : Platform}
    (h : Platform.captureSignals Signal.fatal { p with target := some c } = (kept, q, some e)) :
    GivenBack c p (q.releaseSignals kept) e := by
  refine ⟨⟨kept, q, h, rfl, fun ha => ?_⟩, rfl⟩
  obtain ⟨front, -, -, hkept, hways⟩ := Platform.ways_captureSignals _ (by decide) h
  have hq : q.disposition = fun s => if s ∈ front then .captured else p.disposition s :=
    congrArg Ways.disposition hways
  have hreleased := congrArg Ways.disposition (q.ways_releaseSignals ha front p.disposition)
  rw [hkept]
  refine hreleased.trans (funext fun s => ?_)
  rw [hq]
  dsimp only
  split <;> rfl

/-- What one leaves behind that refuses to be armed. -/
theorem Refuses.leaves {i' : Interceptor} (h : Refuses c p e i i' p') :
    i.isCounting = true ∧ p' = p ∨ i.takesSignals = true ∧ GivenBack c p p' e := by
  cases h with
  | counting => exact Or.inl ⟨rfl, rfl⟩
  | fatalSignals h => exact Or.inr ⟨rfl, givenBack h⟩

theorem Refuses.counters {i' : Interceptor} (h : Refuses c p e i i' p') :
    p'.armed = p.armed ∧ p'.disarmed = p.disarmed := by
  cases h with
  | counting => exact ⟨rfl, rfl⟩
  | @fatalSignals kept q h =>
      have htarget : p.Redirects { p with target := some c } := rfl
      have hcapture := Platform.Redirects.captureSignals Signal.fatal { p with target := some c }
      rw [h] at hcapture
      exact counters_of_redirects ((htarget.trans hcapture).trans (.releaseSignals q kept))

end Interceptor

/-! ### The marker -/

namespace Marker
variable {t : Tree} {path : String}

/-- After the marker is deleted none can be read. -/
theorem read_remove (wf : t.WellFormed) (path : String) (b : Bytes) :
    (remove t path).1.read path ≠ .ok b := by
  intro h
  cases hread : t.read path with
  | ok b' => exact Tree.find?_of_read h (holds_remove (e := some b') hread wf)
  | error f =>
      rw [remove] at h
      split at h
      next hr => exact Tree.find?_of_read h (Tree.find?_remove hr)
      next => split at h <;> cases hread.symm.trans h

end Marker

namespace Reporter
variable {r : Reporter} {p : Platform}

theorem state_of_capture_eq_none (h : r.capture = none) (p : Platform) : r.state p = r.stored := by
  rw [state, h]
  cases r.stored <;> rfl

/-- What a refused installation comes to. -/
structure RolledBack (x : r.Halt p) (r' : Reporter) (p' : Platform) : Prop where
  /-- The reporter is where it was in its life, -/
  state : r'.state p' = r.state p
  capture : r'.capture = none
  /-- and remembers what was found at the path of the marker. -/
  prior : r'.prior =
    some ((Marker.read p.files r.markerPath).1.map fun raw => ⟨raw, Marker.parse? raw⟩)
  /-- Exactly the interceptors that were armed are disarmed, -/
  interceptors : r'.interceptors = x.undone.1 ++ x.after :: x.back
  platform : p' = r.deleteMarker .markerKeptAfterFailure x.undone.2
  /-- each of them once. -/
  armed : p'.armed = p.armed + x.front.countP Interceptor.isCounting
  disarmed : p'.disarmed = p.disarmed + x.front.countP Interceptor.isCounting
  /-- The one that refuses has done nothing, or gave back the signals that it had taken over. -/
  refusing : x.refusing.isCounting = true ∧ x.left = x.reached ∨
    x.refusing.takesSignals = true ∧
      Interceptor.GivenBack (r.nextCapture p) x.reached x.left x.error
  /-- If there was no marker that could be read, none is left, -/
  unmarked : (∀ b, p.files.read r.markerPath ≠ .ok b) → ∀ b, p'.files.read r.markerPath ≠ .ok b
  /-- and nothing at all at its path if this session's own could be written. -/
  vacant : (∀ b, p.files.read r.markerPath ≠ .ok b) →
    (Marker.write (r.takePrior p).1.files r.markerPath (r.ownMarker p)).2 = .ok () →
    p'.files.pathExists r.markerPath = false
  /-- A directory in its place stays. -/
  directory : p.files.find? (p.files.place r.markerPath) = some .directory →
    p'.files.find? (p'.files.place r.markerPath) = some .directory

/-- Each interceptor that was armed is disarmed once. -/
theorem counters_undone (x : r.Halt p) :
    x.undone.2.armed = p.armed + x.front.countP Interceptor.isCounting ∧
      x.undone.2.disarmed = p.disarmed + x.front.countP Interceptor.isCounting := by
  have hbefore := (records_prepared r p).counters
  have hup := Interceptor.counts_armAll x.arms
  have hbetween := (Interceptor.refuses_arm x.refuses).counters
  have hdown := Interceptor.counts_disarmAll x.armed
    (x.left.note [.armFailed x.after.name x.error])
  rw [hup.kinds] at hdown
  constructor
  · calc x.undone.2.armed
      _ = x.left.armed := hdown.armed
      _ = (r.prepared p).armed + _ := hbetween.1.trans hup.armed
      _ = p.armed + _ := congrArg (· + _) hbefore.1
  · calc x.undone.2.disarmed
      _ = x.left.disarmed + _ := hdown.disarmed
      _ = (r.prepared p).disarmed + _ := congrArg (· + _) (hbetween.2.trans hup.disarmed)
      _ = p.disarmed + _ := congrArg (· + _) hbefore.2

/-- Arming and disarming keeps off the files. -/
theorem files_undone (x : r.Halt p) : x.undone.2.files = (r.prepared p).files := by
  have hup := Interceptor.untouched_armAll (r.nextCapture p) r.interceptors (r.prepared p)
  have hdown := Interceptor.untouched_disarmAll x.armed
    (x.left.note [.armFailed x.after.name x.error])
  rw [x.armAll] at hup
  exact hdown.1.trans hup.1

/-- **A refused installation.**  If one of the interceptors refuses to be armed, the installation
returns its refusal, and is rolled back. -/
theorem install_refused (wf : p.files.WellFormed) (hn : r.capture = none) (x : r.Halt p) :
    ∃ r' p', r.install p = (r', p', .error x.error) ∧ RolledBack x r' p' := by
  have hfiles := files_undone x
  have hprepared : Tree.Keeps _ p.files (r.prepared p).files := spares_prepared r p
  have wf' : x.undone.2.files.WellFormed := hfiles ▸ hprepared.wellFormed wf
  have hdeleted := (deleteMarker_eq r .markerKeptAfterFailure x.undone.2).1
  have hcounters := (Platform.Records.deleteMarker r .markerKeptAfterFailure x.undone.2).counters
  obtain ⟨harmed, hdisarmed⟩ := counters_undone x
  refine ⟨_, _, install_of_halt hn x, {
    state := (state_of_capture_eq_none hn _).trans (state_of_capture_eq_none hn _).symm
    capture := hn
    prior := congrArg some (snd_takePrior r p)
    interceptors := rfl
    platform := rfl
    armed := hcounters.1.trans harmed
    disarmed := hcounters.2.trans hdisarmed
    refusing := (Interceptor.refuses_arm x.refuses).leaves
    unmarked := fun _ b => ?_
    vacant := fun _ hw => ?_
    directory := fun hdir => ?_ }⟩
  · rw [hdeleted]
    exact Marker.read_remove wf' r.markerPath b
  · have hread := read_prepared hw
    rw [← hfiles] at hread
    have hgone := Marker.holds_remove (e := some _) hread wf'
    rw [← hdeleted] at hgone
    refine Tree.WellFormed.pathExists_eq_false ?_ hgone
    rw [hdeleted]
    exact (Marker.keeps_remove _ _).wellFormed wf'
  · rw [hdeleted, (Marker.keeps_remove _ _).place, hfiles, hprepared.place]
    exact (Marker.keeps_remove _ _).directories _ (hprepared.directories _ hdir)

/-- An interceptor that counts is armed before the system refuses to have the second signal captured
for the next one, and nothing after that. -/
theorem exists_halt_second (c : Nat) {is : List Interceptor} {p : Platform} {reason : String}
    (his : is = [.counting {}, .fatalSignals []])
    (h : p.answers = { next := [none, some reason] }) :
    ∃ x : Interceptor.Halt c is p,
      x.front = [.counting {}] ∧ x.armed = [.counting {}] ∧ x.refusing.isCounting = false ∧
        x.reached.disposition = p.disposition ∧ x.error = Platform.notCaptured .segv reason ∧
        ∀ kept q, Platform.captureSignals Signal.fatal { x.reached with target := some c } =
          (kept, q, some x.error) → q.answers.Accepts := by
  obtain ⟨q, hq, haccepts⟩ : ∃ q, Platform.captureSignals Signal.fatal
        { p with armed := p.armed + 1, target := some c } =
        ([(.abrt, p.disposition .abrt)], q, some (Platform.notCaptured .segv reason)) ∧
      q.answers.Accepts := by
    simp [Answers.Accepts, Platform.captureSignals, Signal.fatal, Platform.redirect, h,
      Answers.first, Answers.later]
  subst his
  have hrefuses : (Interceptor.fatalSignals []).arm c { p with armed := p.armed + 1 } =
      (.fatalSignals [], q.releaseSignals [(.abrt, p.disposition .abrt)],
        .error (Platform.notCaptured .segv reason)) := by
    rw [Interceptor.arm, Platform.takeSignals, hq]
  let x : Interceptor.Halt c [.counting {}, .fatalSignals []] p :=
    ⟨[.counting {}], _, [], rfl, [.counting {}], _, rfl, _, _, _, hrefuses⟩
  refine ⟨x, rfl, rfl, rfl, rfl, rfl, fun kept q' h' => ?_⟩
  have hsame : q = q' := congrArg (·.2.1) (hq.symm.trans h')
  exact hsame ▸ haccepts

/-- In an empty directory one interceptor is armed before the next one has a signal refused. -/
theorem install_refused_fresh :
    let p : Platform := { Platform.new (.new []) 0 ⟨0, 0, by decide⟩ 7 "" "" with
      answers := { next := [none, some "EPERM"] } }
    let r := Reporter.new "m" "log" "1" 0 [.counting {}, .fatalSignals []]
    p.files.WellFormed ∧ r.capture = none ∧
      ∃ r' p', r.install p = (r', p', .error (Platform.notCaptured .segv "EPERM")) ∧
        r'.state p' = .idle ∧ p'.armed = 1 ∧ p'.disarmed = 1 ∧
        p'.disposition = p.disposition ∧ p'.target = none ∧
        p'.files.pathExists "m" = false := by
  intro p r
  have wf : p.files.WellFormed := Tree.wellFormed_new []
  have hprepared := records_prepared r p
  obtain ⟨x, hfront, harmed, hcounting, hreached, herror, haccepts⟩ :=
    exists_halt_second (r.nextCapture p) (rfl : r.interceptors = _) hprepared.answers
  obtain ⟨r', p', h, hrolled⟩ := install_refused wf rfl x
  have hnone : (Tree.new []).Holds "m" none := Tree.find?_new [] _
  have hread : ∀ b, p.files.read r.markerPath ≠ .ok b := fun b hb =>
    nomatch (Sessions.read_root rfl hnone).symm.trans hb
  have hwrite : (Marker.write (r.takePrior p).1.files r.markerPath (r.ownMarker p)).2 = .ok () :=
    (Sessions.filesWork_root ⟨rfl, wf, hnone, nofun⟩ "1").write
  obtain ⟨⟨kept, q, hcapture, -, hback⟩, htarget⟩ := (hrolled.refusing.resolve_left fun hc =>
    Bool.false_ne_true (hcounting.symm.trans hc.1)).2
  -- The counting interceptor and the marker keep off the signals.
  have hways : p'.ways = x.left.ways := by
    rw [hrolled.platform, (Platform.Records.deleteMarker r _ x.undone.2).ways,
      Interceptor.Halt.undone, harmed]
    rfl
  have hdisposition : x.left.disposition = p.disposition :=
    (hback (haccepts _ _ hcapture)).trans (hreached.trans hprepared.disposition)
  have hup := hrolled.armed
  have hdown := hrolled.disarmed
  rw [hfront] at hup hdown
  rw [herror] at h
  exact ⟨wf, rfl, r', p', h, hrolled.state, hup, hdown,
    (congrArg Ways.disposition hways).trans hdisposition,
    (congrArg Ways.target hways).trans htarget, hrolled.vacant hread hwrite⟩

/-- A refused installation leaves no marker, not even that of an earlier session. -/
theorem guarded_refused {r' : Reporter} {p' : Platform} {wd : Place} {b : Option Bytes} {e : Error}
    (h : r.install p = (r', p', .error e)) (hg : p.Guarded wd r.markerPath b) (hf : r.FilesWork p)
    (ha : Path.Apart wd r.markerPath r.logPath) : p'.Guarded wd r.markerPath none := by
  have hleft := guarded_leaveMarker (guarded_takePrior hg hf.read).1
    (by rw [(takePrior_rest r p).2]; exact hf.write)
  have hprepared : (r.prepared p).Guarded wd r.markerPath _ := hleft.addCapture ha r.registry
  obtain ⟨q, hq, rfl⟩ := refused_untouched h
  exact guarded_deleteMarker (hprepared.untouched hq) .markerKeptAfterFailure

/-- Of two interceptors that count the second refuses. -/
theorem exists_halt_counting (c : Nat) {is : List Interceptor} {e : Error}
    (his : is = [.counting {}, .counting { rest := some e }]) (p : Platform) :
    ∃ x : Interceptor.Halt c is p, x.error = e := by
  subst his
  exact ⟨⟨[.counting {}], .counting { rest := some e }, [], rfl, [.counting {}],
    { p with armed := p.armed + 1 }, rfl, _, _, e, rfl⟩, rfl⟩

/-- The marker of a session that has crashed is gone when the next one is refused: that one's
reporter remembers what it found, and a reporter that is installed after it finds nothing. -/
theorem install_refused_stale :
    let m : Marker := ⟨⟨0, 0, by decide⟩, 7, "1"⟩
    let stale : Platform := .new (Marker.write (.new []) "m" m).1 0 m.start 8 "" ""
    let r := Reporter.new "m" "log" "1" 0 [.counting {}, .counting { rest := some (.signal "no") }]
    stale.files.read "m" = .ok m.bytes ∧ r.prior = none ∧
      ∃ r' p', r.install stale = (r', p', .error (.signal "no")) ∧
        r'.prior = some (some (.ofBytes m.bytes)) ∧
        p'.files.read "m" = .error (.system .notFound) ∧
        ∃ next' p'', (Reporter.new "m" "log" "1" 0 []).install p' = (next', p'', .ok none) := by
  intro m stale r
  have hnone : (Tree.new []).Holds "m" none := Tree.find?_new [] _
  have hheld := Marker.holds_write (Sessions.write_root rfl hnone m)
  have hk := Marker.keeps_write (.new []) "m" m
  have hstale : stale.Guarded [] "m" (some m.bytes) :=
    ⟨hk.workingDirectory, hk.wellFormed (Tree.wellFormed_new []), hheld, nofun⟩
  have hwork := Sessions.filesWork_root hstale "1"
  have hwork' : r.FilesWork stale := ⟨hwork.read, hwork.write⟩
  obtain ⟨x, herror⟩ :=
    exists_halt_counting (r.nextCapture stale) (rfl : r.interceptors = _) (r.prepared stale)
  obtain ⟨r', p', h, hrolled⟩ := install_refused hstale.wellFormed rfl x
  rw [herror] at h
  have hgone : p'.Guarded [] "m" none := guarded_refused h hstale hwork' Sessions.apart_log
  -- The next one is installed where nothing is left.
  obtain ⟨next', p'', hnext⟩ := install_of_arms (r := .new "m" "log" "1" 0 []) (p := p') rfl rfl
  have hfound := found_install rfl hnext hgone (Sessions.filesWork_root hgone "1")
  rw [hfound] at hnext
  have hread : (Marker.read stale.files r.markerPath).1 = some (Text.decodeLossy m.bytes) :=
    Marker.fst_read hstale.holds hwork'.read
  refine ⟨hheld, rfl, r', p', h, ?_, Sessions.read_root hgone.workingDirectory hgone.holds,
    next', p'', hnext⟩
  rw [hrolled.prior, hread]
  rfl

end Reporter
end Vigil
