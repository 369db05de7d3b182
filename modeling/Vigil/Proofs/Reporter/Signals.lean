import Vigil.Proofs.Platform.Signals
import Vigil.Proofs.Reporter.Refusal

/-!
# Reporter — the ways of signals are put back

A reporter disarms its interceptors in the order in which it armed them.  So when several of them
take over fatal signals the last one to be disarmed puts back what the others had set, and whichever
of them is disarmed clears the target, also if that was another reporter's.

* `taking_prepared`: what the interceptors that an installation arms keep.
* `same_uninstall_iff`, `same_refused_iff`: what an uninstallation and a refused installation put
  back.

**The ways of signals** (`signals_restored`): exactly when they are as they were before the
installation.  `signals_lost`: two reporters, and one with two interceptors, for which they are not.
-/

namespace Vigil
namespace Interceptor
variable {c k : Nat} {is is' : List Interceptor} {p p' : Platform}

/-- Why it refuses to be armed, if it does and the system does not refuse anything. -/
def refusal? : Interceptor → Option Error
  | .counting answers => answers.first
  | _ => none

theorem accepts_arm (ha : p.answers.Accepts) (i : Interceptor) (c : Nat) :
    (i.arm c p).2.1.answers.Accepts := by
  cases i with
  | panicHook o =>
      simp only [arm, PanicObserver.arm]
      split <;> exact ha
  | fatalSignals previous =>
      cases previous with
      | nil => exact (p.takeSignals_of_accepts ha c).1
      | cons => exact ha
  | counting =>
      rw [arm]
      split <;> exact ha

theorem accepts_armAll (ha : p.answers.Accepts) (c : Nat) (is : List Interceptor) :
    (armAll c is p).2.1.answers.Accepts := by
  induction is generalizing p with
  | nil => exact ha
  | cons i is ih =>
      have hi := accepts_arm ha i c
      rw [armAll]
      split
      next h => rw [h] at hi; exact hi
      next h => rw [h] at hi; exact ih hi

/-- If all are armed, none refuses. -/
theorem refusal?_of_armAll (h : armAll c is p = (is', p', k, none)) :
    ∀ i ∈ is, i.refusal? = none := by
  induction is generalizing p is' k with
  | nil => exact nofun
  | cons i is ih =>
      rw [armAll] at h
      split at h
      next => cases h
      next i' q hi =>
        rcases hrest : armAll c is q with ⟨rest, q', n, refusal⟩
        rw [hrest] at h
        cases h
        refine List.forall_mem_cons.2 ⟨?_, ih hrest⟩
        cases i with
        | panicHook | fatalSignals => rfl
        | counting => exact (counting_armed hi).1

/-- If the system accepts, only one that counts refuses, and nothing is changed. -/
theorem Halt.refuses_of_accepts (x : Halt c is p) (ha : p.answers.Accepts) :
    x.refusing.refusal? = some x.error ∧ x.left = x.reached ∧ x.left.answers.Accepts ∧
      x.after.Released := by
  have hreached := accepts_armAll ha c x.front
  rw [x.arms] at hreached
  have hrefuses := refuses_arm x.refuses
  generalize x.refusing = i, x.after = i', x.left = q at hrefuses ⊢
  cases hrefuses with
  | counting h => exact ⟨h, rfl, hreached, Or.inl rfl⟩
  | fatalSignals h =>
      have hnone := (Platform.accepts_captureSignals { x.reached with target := some c } hreached
        Signal.fatal).2
      rw [h] at hnone
      cases hnone

/-- If the system accepts and no interceptor refuses, all are armed. -/
theorem armAll_of_accepts (ha : p.answers.Accepts) (h : ∀ i ∈ is, i.refusal? = none) (c : Nat) :
    (armAll c is p).2.2.2 = none := by
  rcases armAll_cases c is p with ⟨_, _, hall⟩ | ⟨⟨x⟩⟩
  · rw [hall]
  · have hmem : x.refusing ∈ x.front ++ x.refusing :: x.back :=
      List.mem_append_right _ List.mem_cons_self
    rw [← x.split] at hmem
    cases (h _ hmem).symm.trans (x.refuses_of_accepts ha).1

end Interceptor

namespace Reporter
open Interceptor
variable {r r₁ r₂ r' : Reporter} {p p₁ p₂ p' : Platform} {found : Option PriorCrash} {e : Error}

/-- It is not installed, and no interceptor of it keeps what happened on fatal signals. -/
structure Resting (r : Reporter) : Prop where
  capture : r.capture = none
  released : ∀ i ∈ r.interceptors, i.Released

theorem resting_new {markerPath logPath version : String} {registry : Nat}
    {interceptors : List Interceptor} (h : ∀ i ∈ interceptors, i.Released) :
    (Reporter.new markerPath logPath version registry interceptors).Resting := ⟨rfl, h⟩

/-- The interceptors that an installation arms: those in front of the first that refuses. -/
def willing (r : Reporter) : List Interceptor := r.interceptors.takeWhile (·.refusal?.isNone)

/-- How many interceptors of fatal signals an installation arms. -/
def taking (r : Reporter) : Nat := r.willing.countP takesSignals

theorem arms_of_accepts (ha : p.answers.Accepts) (h : ∀ i ∈ r.interceptors, i.refusal? = none) :
    r.Arms p :=
  armAll_of_accepts ((records_prepared r p).answers ▸ ha) h _

theorem ways_prepared (r : Reporter) (p : Platform) : (r.prepared p).ways = p.ways :=
  (records_prepared r p).ways

/-- What the interceptors that an installation arms keep. -/
theorem taking_prepared {c k : Nat} {armed : List Interceptor} (hr : r.Resting)
    (h : armAll c r.willing (r.prepared p) = (armed, p', k, none)) :
    Taking c r.taking p.ways p'.ways armed := by
  have htaking := taking_armAll
    (fun i hi => hr.released i ((List.takeWhile_prefix _).subset hi)) h
  rwa [ways_prepared] at htaking

/-- An installation that succeeds arms all interceptors. -/
theorem taking_install (hr : r.Resting) (h : r.install p = (r₁, p₁, .ok found)) :
    Taking (r.nextCapture p) r.taking p.ways p₁.ways r₁.interceptors := by
  rw [install_eq hr.capture] at h
  split at h
  next => cases h
  next harm =>
    have hall : r.willing = r.interceptors := by
      have hwilling : ∀ i ∈ r.interceptors, i.refusal?.isNone = true := fun i hi =>
        Option.isNone_iff_eq_none.2 (refusal?_of_armAll harm i hi)
      rw [willing, ← List.append_nil r.interceptors,
        List.takeWhile_append_of_pos hwilling, List.takeWhile_nil]
    rw [← hall] at harm
    have htaking := taking_prepared hr harm
    cases h
    exact htaking

theorem accepts_install (hn : r.capture = none) (ha : p.answers.Accepts)
    (h : r.install p = (r₁, p₁, .ok found)) : p₁.answers.Accepts := by
  have hall := accepts_armAll ((records_prepared r p).answers ▸ ha) (r.nextCapture p)
    r.interceptors
  rw [install_eq hn] at h
  split at h
  next => cases h
  next harm =>
    rw [harm] at hall
    cases h
    exact hall

theorem ways_uninstall (h : r.isInstalled = true) (p : Platform) :
    (r.uninstall p).2.ways = (disarmAll r.interceptors p).2.ways := by
  rw [uninstall, if_pos h]
  exact (Platform.Records.deleteMarker _ _ _).ways

theorem resting_uninstall (h : r.isInstalled = true) (p : Platform) :
    (r.uninstall p).1.Resting := by
  rw [uninstall, if_pos h]
  exact ⟨rfl, released_disarmAll r.interceptors p⟩

/-- What an uninstallation puts back, whatever was done in between that leaves the ways of signals
and the interceptors alone. -/
theorem same_uninstall_iff (hr : r.Resting) (h : r.install p = (r₁, p₁, .ok found))
    (hi : r₂.interceptors = r₁.interceptors) (hinst : r₂.isInstalled = true)
    (hp : p₁.ways.Same p₂.ways) (ha : p₂.answers.Accepts) :
    p.ways.Same (r₂.uninstall p₂).2.ways ↔ p.ways.Survives r.taking := by
  rw [ways_uninstall hinst, hi]
  exact same_iff_survives (taking_install hr h) hp ha

/-- A refused installation disarms those that it has armed. -/
theorem taking_halt (hr : r.Resting) (ha : p.answers.Accepts) (x : r.Halt p) :
    Taking (r.nextCapture p) r.taking p.ways x.left.ways x.armed := by
  have hprepared := (records_prepared r p).answers
  obtain ⟨hrefusal, hleft, -, -⟩ := x.refuses_of_accepts (hprepared ▸ ha)
  have hfront : ∀ i ∈ x.front, i.refusal?.isNone = true := fun i hi =>
    Option.isNone_iff_eq_none.2 (refusal?_of_armAll x.arms i hi)
  have hwilling : r.willing = x.front := by
    refine (congrArg (List.takeWhile _) x.split).trans ?_
    rw [List.takeWhile_append_of_pos hfront, List.takeWhile_cons_of_neg (by simp [hrefusal]),
      List.append_nil]
  rw [hleft]
  exact taking_prepared hr (hwilling ▸ x.arms)

theorem same_refused_iff (hr : r.Resting) (ha : p.answers.Accepts)
    (h : r.install p = (r', p', .error e)) :
    p.ways.Same p'.ways ↔ p.ways.Survives r.taking := by
  obtain ⟨x, -, rfl, -⟩ := install_error hr.capture h
  obtain ⟨-, -, haccepts, -⟩ := x.refuses_of_accepts ((records_prepared r p).answers ▸ ha)
  rw [(Platform.Records.deleteMarker r _ x.undone.2).ways]
  exact same_iff_survives (p := x.left.note [.armFailed x.after.name x.error])
    (taking_halt hr ha x) ⟨fun _ _ => rfl, rfl⟩ haccepts

theorem resting_refused (hr : r.Resting) (ha : p.answers.Accepts)
    (h : r.install p = (r', p', .error e)) : r'.Resting := by
  obtain ⟨x, -, -, rfl⟩ := install_error hr.capture h
  obtain ⟨-, -, -, hafter⟩ := x.refuses_of_accepts ((records_prepared r p).answers ▸ ha)
  refine ⟨hr.capture, fun i hi => ?_⟩
  rcases List.mem_append.1 hi with hi | hi
  · exact released_disarmAll x.armed _ i hi
  · rcases List.mem_cons.1 hi with rfl | hi
    · exact hafter
    · refine hr.released i (x.split ▸ ?_)
      exact List.mem_append_right _ (List.mem_cons_of_mem _ hi)

/-- **The ways of signals.**  Take a reporter that is not installed, on any platform where the
system refuses no request, whoever has taken over fatal signals there.  After it is installed and
uninstalled again, and after its installation is refused, the same happens on each fatal signal as
before, with the same capture, exactly if
* no interceptor of fatal signals was armed, or
* fatal signals were recorded with no capture before, and only one of them was armed, or several
  where all fatal signals were recorded already.

Either way no interceptor is left armed, so that the same holds of the next installation. -/
theorem signals_restored (hr : r.Resting) (p : Platform) (ha : p.answers.Accepts) :
    (∀ (r₁ r₂ : Reporter) (p₁ p₂ : Platform) found, r.install p = (r₁, p₁, .ok found) →
      r₂.interceptors = r₁.interceptors → r₂.isInstalled = true → p₁.ways.Same p₂.ways →
      p₂.answers.Accepts →
      (p.ways.Same (r₂.uninstall p₂).2.ways ↔ p.ways.Survives r.taking) ∧
        (r₂.uninstall p₂).1.Resting) ∧
    (∀ r' p' e, r.install p = (r', p', .error e) →
      (p.ways.Same p'.ways ↔ p.ways.Survives r.taking) ∧ r'.Resting) :=
  ⟨fun _ _ _ p₂ _ h hi hinst hp ha₂ =>
      ⟨same_uninstall_iff hr h hi hinst hp ha₂, resting_uninstall hinst p₂⟩,
    fun _ _ _ h => ⟨same_refused_iff hr ha h, resting_refused hr ha h⟩⟩

/-- The only interceptor of fatal signals in a program, beside one of panics. -/
theorem signals_restored_alone :
    let p : Platform := .new (.new []) 0 ⟨0, 0, by decide⟩ 7 "" ""
    let r := Reporter.new "m" "log" "1" 0 [.panicHook {}, .fatalSignals []]
    r.Resting ∧ p.answers.Accepts ∧
      ∃ r₁ p₁ found, r.install p = (r₁, p₁, .ok found) ∧ p₁.target = some 0 ∧
        p₁.answers.Accepts ∧ p.ways.Same (r₁.uninstall p₁).2.ways := by
  intro p r
  have hr : r.Resting := resting_new fun i hi => by
    rcases List.mem_cons.1 hi with rfl | hi
    · exact Or.inl rfl
    · rw [List.mem_singleton.1 hi]
      exact Or.inr rfl
  have ha : p.answers.Accepts := ⟨rfl, nofun⟩
  obtain ⟨r₁, p₁, h⟩ := install_of_arms (r := r) (p := p) rfl (arms_of_accepts ha fun i hi => by
    rcases List.mem_cons.1 hi with rfl | hi
    · rfl
    · rw [List.mem_singleton.1 hi]
      rfl)
  have htarget : p₁.target = some (r.nextCapture p) :=
    congrArg Ways.target (taking_install hr h).ways
  rw [nextCapture_eq] at htarget
  have ha₁ := accepts_install hr.capture ha h
  refine ⟨hr, ha, r₁, p₁, _, h, htarget, ha₁, ?_⟩
  exact (((signals_restored hr p ha).1 r₁ r₁ p₁ p₁ _ h rfl (isInstalled_install rfl h)
    ⟨fun _ _ => rfl, rfl⟩ ha₁).1).2
    (Or.inr ⟨rfl, Or.inl rfl⟩)

/-- A reporter is installed and uninstalled while another one is installed: fatal signals are
recorded with no capture any more.  And one that takes them over twice leaves them taken over. -/
theorem signals_lost :
    let p : Platform := .new (.new []) 0 ⟨0, 0, by decide⟩ 7 "" ""
    let other := Reporter.new "m" "log" "1" 0 [.fatalSignals []]
    let once := Reporter.new "m" "log" "2" 0 [.fatalSignals []]
    let twice := Reporter.new "m" "log" "2" 0 [.fatalSignals [], .fatalSignals []]
    (∃ o q found r₁ p₁ found', other.install p = (o, q, .ok found) ∧
      once.install q = (r₁, p₁, .ok found') ∧
      q.target = some 0 ∧ (r₁.uninstall p₁).2.target = none) ∧
    ∃ r₁ p₁ found, twice.install p = (r₁, p₁, .ok found) ∧
      p.disposition .segv = .foreign 11 ∧
      (r₁.uninstall p₁).2.disposition .segv = .captured := by
  intro p other once twice
  have hresting : ∀ n, (Reporter.new "m" "log" "2" 0 (.replicate n (.fatalSignals []))).Resting :=
    fun n => resting_new fun i hi => by
      rw [List.eq_of_mem_replicate hi]
      exact Or.inr rfl
  have harms : ∀ (path version : String) (n : Nat) (p : Platform), p.answers.Accepts →
      (Reporter.new "m" path version 0 (.replicate n (.fatalSignals []))).Arms p :=
    fun _ _ n p ha => arms_of_accepts ha fun i hi => by
      rw [List.eq_of_mem_replicate hi]
      rfl
  have ha : p.answers.Accepts := ⟨rfl, nofun⟩
  obtain ⟨o, q, hother⟩ := install_of_arms (r := other) (p := p) rfl (harms _ _ 1 p ha)
  have haq := accepts_install rfl ha hother
  obtain ⟨r₁, p₁, h⟩ := install_of_arms (r := once) (p := q) rfl (harms _ _ 1 q haq)
  obtain ⟨r₂, p₂, h₂⟩ := install_of_arms (r := twice) (p := p) rfl (harms _ _ 2 p ha)
  have hotherresting : other.Resting := ⟨rfl, (hresting 1).released⟩
  have htarget : q.target = some (other.nextCapture p) :=
    congrArg Ways.target (taking_install hotherresting hother).ways
  rw [nextCapture_eq] at htarget
  have hlost := ways_released (taking_install (hresting 1) h) (accepts_install rfl haq h)
  have hleft := ways_released (taking_install (hresting 2) h₂) (accepts_install rfl ha h₂)
  rw [← ways_uninstall (isInstalled_install rfl h)] at hlost
  rw [← ways_uninstall (isInstalled_install rfl h₂)] at hleft
  exact ⟨⟨o, q, _, r₁, p₁, _, hother, h, htarget, congrArg Ways.target hlost⟩,
    r₂, p₂, _, h₂, rfl, congrFun (congrArg Ways.disposition hleft) .segv⟩

end Reporter
end Vigil
