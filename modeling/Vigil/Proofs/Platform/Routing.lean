import Vigil.Proofs.Platform.Arming
import Vigil.Proofs.Platform.Hook

/-!
# Platform — who records a panic

The hook, the observers that are active and the number of the next one decide which captures record
a panic (`Routing`).  Arming puts new observers in front of the hook; disarming puts back a hook
that was there before, whichever that is, and stops the observer.  Interceptors may be disarmed in
any order: what is left in front of the hook then is not active.

* `Grows`: new observers were put in front, and the ones before are active as they were.
* `arming_armAll`: interceptors that are armed record every panic once for each of them that
  observes panics, before all that was recorded anyway.
* `disarming_disarmAll`: when they are disarmed none of their observers is active.
* `Stopped.grows`: arming and disarming leaves nothing but observers that are not active.
-/

namespace Vigil

/-- What decides which captures record a panic. -/
structure Routing where
  hook : Hook
  /-- The observers that are active. -/
  active : List Nat
  /-- The number of the next observer. -/
  next : Nat

/-- How panics are routed on a platform. -/
def Platform.routing (p : Platform) : Routing := ⟨p.hook, p.observers, p.nextObserver⟩

namespace Routing

/-- The captures that record a panic, in order. -/
def captures (s : Routing) : List Nat := s.hook.captures s.active.contains

/-- The numbers of observers are given out one after the other. -/
structure Sound (s : Routing) : Prop where
  hook_lt : ∀ l ∈ s.hook.layers, l.1 < s.next
  active_lt : ∀ x ∈ s.active, x < s.next

/-- New observers were put in front of the hook, and the ones before are active as they were. -/
structure Grows (s s' : Routing) : Prop where
  next_le : s.next ≤ s'.next
  within : s'.hook.Within s.next s'.next s.hook
  active_lt : ∀ x ∈ s'.active, x < s'.next
  before : ∀ x, x < s.next → (x ∈ s'.active ↔ x ∈ s.active)

/-- No observer is active that is not from before. -/
def Quiet (s s' : Routing) : Prop := ∀ x ∈ s'.active, x < s.next

variable {s s₁ s' : Routing}

theorem contains_eq_false {xs : List Nat} {x : Nat} (h : x ∉ xs) : xs.contains x = false := by
  rw [List.contains_eq_mem, decide_eq_false h]

namespace Grows

theorem refl (hs : s.Sound) : s.Grows s :=
  ⟨Nat.le_refl _, .refl _ _ _, hs.active_lt, fun _ _ => Iff.rfl⟩

theorem trans (h₁ : s.Grows s₁) (h₂ : s₁.Grows s') : s.Grows s' where
  next_le := Nat.le_trans h₁.next_le h₂.next_le
  within := (h₁.within.mono (Nat.le_refl _) h₂.next_le).trans
    (h₂.within.mono h₁.next_le (Nat.le_refl _))
  active_lt := h₂.active_lt
  before x hx := (h₂.before x (Nat.lt_of_lt_of_le hx h₁.next_le)).trans (h₁.before x hx)

theorem sound (h : s.Grows s') (hs : s.Sound) : s'.Sound where
  hook_lt l hl := by
    rcases h.within.mem_layers hl with hnew | hold
    · exact hnew.2
    · exact Nat.lt_of_lt_of_le (hs.hook_lt l hold) h.next_le
  active_lt := h.active_lt

/-- The hook from before records as it did. -/
theorem captures_before (h : s.Grows s') (hs : s.Sound) :
    s.hook.captures s'.active.contains = s.captures := by
  refine Hook.captures_congr fun l hl => ?_
  rw [List.contains_eq_mem, List.contains_eq_mem]
  exact decide_eq_decide.2 (h.before l.1 (hs.hook_lt l hl))

/-- If no new observer is active, panics are recorded as before. -/
theorem captures_of_quiet (h : s.Grows s') (hs : s.Sound) (hq : s.Quiet s') :
    s'.captures = s.captures := by
  have hnew : ∀ x, s.next ≤ x → x < s'.next → s'.active.contains x = false := fun x hx _ =>
    contains_eq_false fun hm => Nat.lt_irrefl _ (Nat.lt_of_lt_of_le (hq x hm) hx)
  rw [captures, Hook.captures_of_within h.within hnew]
  exact h.captures_before hs

end Grows

/-- Panics are recorded as before where the same observers are active. -/
theorem captures_congr (hh : s'.hook = s.hook) (ha : ∀ x, x ∈ s'.active ↔ x ∈ s.active) :
    s'.captures = s.captures := by
  rw [captures, captures, hh]
  refine Hook.captures_congr fun l _ => ?_
  rw [List.contains_eq_mem, List.contains_eq_mem]
  exact decide_eq_decide.2 (ha l.1)

end Routing

theorem Platform.Redirects.routing {p p' : Platform} (h : p.Redirects p') :
    p'.routing = p.routing := by
  rw [h]
  rfl

namespace Interceptor

/-- Whether it observes panics. -/
def observesPanics : Interceptor → Bool
  | .panicHook _ => true
  | _ => false

/-- The observer that it was last armed as. -/
def observer? : Interceptor → Option Nat
  | .panicHook o => o.observer
  | _ => none

/-- It is not armed, and will not be active again as the observer that it was. -/
def Idle (s : Routing) : Interceptor → Prop
  | .panicHook o => o.previous = none ∧ ∀ x, o.observer = some x → x ∉ s.active ∧ x < s.next
  | _ => True

/-- It is armed, and the hook that it keeps is `h₀` behind observers with numbers from `n` to
`m`. -/
def Armed (n m : Nat) (h₀ : Hook) : Interceptor → Prop
  | .panicHook o => (∃ x, o.observer = some x ∧ n ≤ x ∧ x < m) ∧
      ∃ h, o.previous = some h ∧ h.Within n m h₀
  | _ => True

variable {s s₁ s' : Routing} {is is' : List Interceptor} {i i' : Interceptor} {c : Nat}
  {p p' : Platform} {n m n' m' : Nat} {h₀ h₁ : Hook}

theorem countP_cons_singleton (q : Interceptor → Bool) (i : Interceptor) (is : List Interceptor) :
    (i :: is).countP q = is.countP q + [i].countP q := by
  rw [List.countP_cons, List.countP_singleton]

/-- Time passes, and no observer is active again. -/
theorem Idle.later (h : i.Idle s) (hn : s.next ≤ s'.next)
    (ha : ∀ x, x < s.next → x ∈ s'.active → x ∈ s.active) : i.Idle s' := by
  cases i with
  | panicHook o =>
      refine ⟨h.1, fun x hx => ?_⟩
      obtain ⟨hm, hlt⟩ := h.2 x hx
      exact ⟨fun hm' => hm (ha x hlt hm'), Nat.lt_of_lt_of_le hlt hn⟩
  | fatalSignals => trivial
  | counting => trivial

theorem Idle.grows (h : i.Idle s) (hg : s.Grows s') : i.Idle s' :=
  h.later hg.next_le fun x hx => (hg.before x hx).1

theorem Armed.mono (h : i.Armed n m h₀) (hm : m ≤ m') : i.Armed n m' h₀ := by
  cases i with
  | panicHook o =>
      obtain ⟨⟨x, hx, hnx, hxm⟩, g, hg, hw⟩ := h
      exact ⟨⟨x, hx, hnx, Nat.lt_of_lt_of_le hxm hm⟩, g, hg, hw.mono (Nat.le_refl _) hm⟩
  | fatalSignals => trivial
  | counting => trivial

/-- The hook may lie behind further observers. -/
theorem Armed.behind (h : i.Armed n' m h₁) (hw : h₁.Within n n' h₀) (hn : n ≤ n') (hm : n' ≤ m) :
    i.Armed n m h₀ := by
  cases i with
  | panicHook o =>
      obtain ⟨⟨x, hx, hnx, hxm⟩, g, hg, hw'⟩ := h
      exact ⟨⟨x, hx, Nat.le_trans hn hnx, hxm⟩, g, hg,
        (hw.mono (Nat.le_refl _) hm).trans (hw'.mono hn (Nat.le_refl _))⟩
  | fatalSignals => trivial
  | counting => trivial

theorem Armed.le_observer (h : i.Armed n m h₀) {x : Nat} (hx : i.observer? = some x) :
    n ≤ x ∧ x < m := by
  cases i with
  | panicHook o =>
      obtain ⟨⟨y, hy, hny, hym⟩, -⟩ := h
      cases hy.symm.trans hx
      exact ⟨hny, hym⟩
  | fatalSignals => cases hx
  | counting => cases hx

/-! ### Arming -/

/-- Interceptors `is` were armed for a capture, which made them `is'`. -/
structure Arming (c : Nat) (s s' : Routing) (is is' : List Interceptor) : Prop where
  grows : s.Grows s'
  captures : s'.captures = List.replicate (is.countP observesPanics) c ++ s.captures
  armed : ∀ i ∈ is', i.Armed s.next s'.next s.hook
  owned : ∀ x ∈ s'.active, s.next ≤ x → ∃ i ∈ is', i.observer? = some x
  kinds : is'.countP observesPanics = is.countP observesPanics

namespace Arming

theorem nil (c : Nat) (hs : s.Sound) : Arming c s s [] [] where
  grows := .refl hs
  captures := rfl
  armed := nofun
  owned x hx hle := absurd (hs.active_lt x hx) (Nat.not_lt.2 hle)
  kinds := rfl

/-- An interceptor that does not observe panics does not change who records them. -/
theorem apart (c : Nat) (hs : s.Sound) (hi : i.observesPanics = false)
    (hi' : i'.observesPanics = false) : Arming c s s [i] [i'] where
  grows := .refl hs
  captures := by
    rw [List.countP_singleton, hi]
    rfl
  armed j hj := by
    cases List.mem_singleton.1 hj
    cases i' with
    | panicHook => cases hi'
    | fatalSignals => trivial
    | counting => trivial
  owned x hx hle := absurd (hs.active_lt x hx) (Nat.not_lt.2 hle)
  kinds := by
    rw [List.countP_singleton, List.countP_singleton, hi, hi']

theorem cons (h : Arming c s s₁ [i] [i']) (t : Arming c s₁ s' is is') :
    Arming c s s' (i :: is) (i' :: is') where
  grows := h.grows.trans t.grows
  captures := by
    rw [t.captures, h.captures, ← List.append_assoc, List.replicate_append_replicate,
      countP_cons_singleton _ i is]
  armed j hj := by
    rcases List.mem_cons.1 hj with rfl | hj
    · exact (h.armed _ (List.mem_singleton.2 rfl)).mono t.grows.next_le
    · exact (t.armed j hj).behind h.grows.within h.grows.next_le t.grows.next_le
  owned x hx hle := by
    by_cases hlt : x < s₁.next
    · obtain ⟨j, hj, hjx⟩ := h.owned x ((t.grows.before x hlt).1 hx) hle
      cases List.mem_singleton.1 hj
      exact ⟨_, List.mem_cons_self, hjx⟩
    · obtain ⟨j, hj, hjx⟩ := t.owned x hx (Nat.not_lt.1 hlt)
      exact ⟨j, List.mem_cons_of_mem _ hj, hjx⟩
  kinds := by
    rw [countP_cons_singleton _ i', countP_cons_singleton _ i is, t.kinds, h.kinds]

end Arming

theorem observesPanics_arm (i : Interceptor) (c : Nat) (p : Platform) :
    (i.arm c p).1.observesPanics = i.observesPanics := by
  cases i with
  | panicHook => rfl
  | fatalSignals previous => cases previous <;> rfl
  | counting =>
      rw [arm]
      split <;> rfl

/-- An observer that is armed comes first. -/
theorem arming_arm (hs : p.routing.Sound) (hi : i.Idle p.routing)
    (h : i.arm c p = (i', p', .ok ())) : Arming c p.routing p'.routing [i] [i'] := by
  cases i with
  | fatalSignals previous =>
      have hsame := (redirects_arm previous c p).routing
      have hi' := observesPanics_arm (fatalSignals previous) c p
      rw [h] at hsame hi'
      rw [hsame]
      exact .apart c hs rfl hi'
  | counting =>
      obtain ⟨-, rfl, rfl⟩ := counting_armed h
      exact .apart c hs rfl rfl
  | panicHook o =>
      have hprevious : ¬ o.previous.isSome = true := by
        rw [hi.1]
        exact Bool.false_ne_true
      simp only [arm, PanicObserver.arm, if_neg hprevious] at h
      cases h
      have hfresh : ∀ l ∈ p.hook.layers, l.1 ≠ p.nextObserver := fun l hl =>
        Nat.ne_of_lt (hs.hook_lt l hl)
      refine ⟨⟨Nat.le_succ _, ?_, fun x hx => ?_, fun x hx => ?_⟩, ?_, fun j hj => ?_,
        fun x hx hle => ?_, rfl⟩
      · exact (Hook.Within.refl _ _ _).observe (Nat.le_refl _) (Nat.lt_succ_self _) c
      · rcases List.mem_cons.1 hx with rfl | hx
        · exact Nat.lt_succ_self _
        · exact Nat.lt_succ_of_lt (hs.active_lt x hx)
      · exact List.mem_cons.trans (or_iff_right (Nat.ne_of_lt hx))
      · have hothers : p.hook.captures (p.nextObserver :: p.observers).contains =
            p.hook.captures p.observers.contains := Hook.captures_congr fun l hl => by
          rw [List.contains_cons, beq_eq_false_iff_ne.2 (hfresh l hl), Bool.false_or]
        have hfirst : (p.nextObserver :: p.observers).contains p.nextObserver = true := by
          rw [List.contains_cons, beq_self_eq_true, Bool.true_or]
        change Hook.captures _ (.observe p.nextObserver c p.hook) = _
        rw [Hook.captures]
        exact (if_pos hfirst).trans (congrArg (c :: ·) hothers)
      · cases List.mem_singleton.1 hj
        exact ⟨⟨_, rfl, Nat.le_refl _, Nat.lt_succ_self _⟩, _, rfl, .refl _ _ _⟩
      · rcases List.mem_cons.1 hx with rfl | hx
        · exact ⟨_, List.mem_singleton.2 rfl, rfl⟩
        · exact absurd (hs.active_lt x hx) (Nat.not_lt.2 hle)

/-- A list of interceptors is armed. -/
theorem arming_armAll {k : Nat} (hs : p.routing.Sound) (hidle : ∀ i ∈ is, i.Idle p.routing)
    (h : armAll c is p = (is', p', k, none)) : Arming c p.routing p'.routing is is' := by
  induction is generalizing p is' k with
  | nil =>
      cases h
      exact .nil c hs
  | cons i is ih =>
      rw [armAll] at h
      split at h
      next => cases h
      next i' q hi =>
        rcases hrest : armAll c is q with ⟨rest, q', n, refusal⟩
        rw [hrest] at h
        cases h
        have hone := arming_arm hs (hidle i List.mem_cons_self) hi
        exact hone.cons (ih (hone.grows.sound hs)
          (fun j hj => (hidle j (List.mem_cons_of_mem _ hj)).grows hone.grows) hrest)

/-- One that refuses to be armed does not observe panics. -/
theorem Refuses.apart {e : Error} (h : Refuses c p e i i' p') :
    p'.routing = p.routing ∧ (∀ s, i'.Idle s) ∧
      i'.observesPanics = false ∧ i.observesPanics = false := by
  cases h with
  | counting => exact ⟨rfl, fun _ => trivial, rfl, rfl⟩
  | @fatalSignals kept q hq =>
      have htarget : p.Redirects { p with target := some c } := rfl
      have hcapture := Platform.Redirects.captureSignals Signal.fatal { p with target := some c }
      rw [hq] at hcapture
      exact ⟨((htarget.trans hcapture).trans (.releaseSignals q kept)).routing,
        fun _ => trivial, rfl, rfl⟩

/-! ### Disarming -/

/-- The observers of interceptors `is` were stopped; the hook is `h₀` behind observers with numbers
from `n` on. -/
structure Stopped (n : Nat) (h₀ : Hook) (s s' : Routing) (is : List Interceptor) : Prop where
  next : s'.next = s.next
  active : ∀ x, x ∈ s'.active ↔ x ∈ s.active ∧ ∀ i ∈ is, i.observer? ≠ some x
  within : s'.hook.Within n s'.next h₀

/-- Interceptors `is` were disarmed, which made them `is'`. -/
structure Disarming (n : Nat) (h₀ : Hook) (s s' : Routing) (is is' : List Interceptor) : Prop
    extends Stopped n h₀ s s' is where
  idle : ∀ i ∈ is', i.Idle s'
  kinds : is'.countP observesPanics = is.countP observesPanics

theorem Stopped.nil {n : Nat} {h₀ : Hook} (hw : s.hook.Within n s.next h₀) :
    Stopped n h₀ s s [] :=
  ⟨rfl, fun _ => ⟨fun hx => ⟨hx, nofun⟩, And.left⟩, hw⟩

/-- An interceptor that does not observe panics has nothing to stop. -/
theorem Stopped.apart (hi : i.observer? = none) (hw : s.hook.Within n s.next h₀) :
    Stopped n h₀ s s [i] := by
  refine ⟨rfl, fun x => (and_iff_left fun j hj => ?_).symm, hw⟩
  cases List.mem_singleton.1 hj
  rw [hi]
  exact nofun

theorem Stopped.cons (h : Stopped n h₀ s s₁ [i]) (t : Stopped n h₀ s₁ s' is) :
    Stopped n h₀ s s' (i :: is) where
  next := t.next.trans h.next
  active x := by
    rw [t.active, h.active, and_assoc, List.forall_mem_singleton, List.forall_mem_cons]
  within := t.within

/-- An observer is stopped, and a hook is put back that was there before or stays. -/
theorem stopped_deactivate {o : PanicObserver} {h : Hook} (hw : h.Within n p.nextObserver h₀) :
    Stopped n h₀ p.routing { p.deactivate o.observer with hook := h }.routing [.panicHook o] := by
  refine ⟨rfl, fun x => List.mem_filter.trans (and_congr_right fun _ => ?_), hw⟩
  rw [List.forall_mem_singleton, decide_eq_true_eq, ne_comm]
  exact Iff.rfl

/-- One interceptor is disarmed. -/
theorem disarming_disarm (hw : p.hook.Within n p.nextObserver h₀)
    (hi : i.Armed n p.nextObserver h₀) :
    Disarming n h₀ p.routing (i.disarm p).2.routing [i] [(i.disarm p).1] := by
  cases i with
  | fatalSignals previous =>
      have hsame : ((fatalSignals previous).disarm p).2.routing = p.routing :=
        (Platform.Redirects.releaseSignals p previous).routing
      rw [hsame]
      refine ⟨.apart rfl hw, fun j hj => ?_, rfl⟩
      cases List.mem_singleton.1 hj
      trivial
  | counting refusal =>
      refine ⟨.apart rfl hw, fun j hj => ?_, rfl⟩
      cases List.mem_singleton.1 hj
      trivial
  | panicHook o =>
      obtain ⟨⟨x, hx, -, hxm⟩, g, hg, hgw⟩ := hi
      have heq : (panicHook o).disarm p = (.panicHook { o with previous := none },
          { p.deactivate o.observer with hook := g }) := by
        simp only [disarm, PanicObserver.disarm, hg]
      rw [heq]
      have hstopped := stopped_deactivate (p := p) (o := o) hgw
      refine ⟨hstopped, fun j hj => ?_, rfl⟩
      cases List.mem_singleton.1 hj
      refine ⟨rfl, fun y hy => ⟨fun hm => ?_, ?_⟩⟩
      · exact ((hstopped.active y).1 hm).2 _ (List.mem_singleton.2 rfl) hy
      · cases hx.symm.trans hy
        exact hxm

/-- Interceptors are disarmed one after the other, in whichever order they were armed. -/
theorem disarming_disarmAll (hw : p.hook.Within n p.nextObserver h₀)
    (harmed : ∀ i ∈ is, i.Armed n p.nextObserver h₀) :
    Disarming n h₀ p.routing (disarmAll is p).2.routing is (disarmAll is p).1 := by
  induction is generalizing p with
  | nil => exact ⟨.nil hw, nofun, rfl⟩
  | cons i is ih =>
      have hi := harmed i List.mem_cons_self
      have hone := disarming_disarm hw hi
      have hnext : (i.disarm p).2.nextObserver = p.nextObserver := hone.next
      have hrest := ih (p := (i.disarm p).2) hone.within fun j hj => by
        rw [hnext]
        exact harmed j (List.mem_cons_of_mem _ hj)
      refine ⟨hone.toStopped.cons hrest.toStopped, fun j hj => ?_, ?_⟩
      · rcases List.mem_cons.1 hj with rfl | hj
        · exact (hone.idle _ (List.mem_singleton.2 rfl)).later (Nat.le_of_eq hrest.next.symm)
            fun x _ hx => ((hrest.active x).1 hx).1
        · exact hrest.idle j hj
      · have heq : (disarmAll (i :: is) p).1 =
            (i.disarm p).1 :: (disarmAll is (i.disarm p).2).1 := rfl
        rw [heq, countP_cons_singleton, countP_cons_singleton _ i is, hrest.kinds, hone.kinds]

/-- Nothing is left of interceptors that were armed on a hook and are stopped. -/
theorem Stopped.grows (h : Stopped s₁.next s₁.hook s s' is) (hg : s₁.Grows s)
    (harmed : ∀ i ∈ is, i.Armed s₁.next s.next s₁.hook)
    (howned : ∀ x ∈ s.active, s₁.next ≤ x → ∃ i ∈ is, i.observer? = some x) :
    s₁.Grows s' ∧ s₁.Quiet s' := by
  refine ⟨⟨?_, h.within, fun x hx => ?_, fun x hx => ?_⟩, fun x hx => ?_⟩
  · rw [h.next]
    exact hg.next_le
  · rw [h.next]
    exact hg.active_lt x ((h.active x).1 hx).1
  · refine (h.active x).trans ((and_iff_left fun i hi hix => ?_).trans (hg.before x hx))
    exact absurd ((harmed i hi).le_observer hix).1 (Nat.not_le.2 hx)
  · obtain ⟨hx, hnot⟩ := (h.active x).1 hx
    refine Nat.lt_of_not_le fun hle => ?_
    obtain ⟨i, hi, hix⟩ := howned x hx hle
    exact hnot i hi hix

end Interceptor
end Vigil
