import Vigil.Interceptor

/-!
# Platform — arming

What interceptors change when they take over signals, and how a list of them is armed: in order, up
to the first that refuses.

* `Redirects`: taking over and releasing signals changes what happens on them, and uses up answers
  of the system.
* `Refuses`: an interceptor that counts refuses when its answers say so, one of fatal signals when
  the system refuses to have a signal captured.
* `Halt`: a list of interceptors in which one refuses: those in front of it are armed.
-/

namespace Vigil

/-- Only what happens on signals is changed, and answers of the system are used up. -/
def Platform.Redirects (p p' : Platform) : Prop :=
  p' = { p with disposition := p'.disposition, target := p'.target, answers := p'.answers }

namespace Platform.Redirects
variable {p p₁ p' : Platform}

theorem refl (p : Platform) : p.Redirects p := rfl

theorem trans (h₁ : p.Redirects p₁) (h₂ : p₁.Redirects p') : p.Redirects p' := by
  rw [Redirects, h₁] at h₂
  exact h₂

theorem redirect (p : Platform) (s : Signal) (d : Disposition) :
    p.Redirects (p.redirect s d).1 := by
  rw [Platform.redirect]
  split <;> rfl

theorem captureSignals (l : List Signal) (p : Platform) :
    p.Redirects (captureSignals l p).2.1 := by
  induction l generalizing p with
  | nil => exact refl p
  | cons s l ih =>
      have hone := redirect p s .captured
      rw [Platform.captureSignals]
      split
      next h => rw [h] at hone; exact hone
      next h => rw [h] at hone; exact hone.trans (ih _)

theorem releaseSignals (p : Platform) (previous : List (Signal × Disposition)) :
    p.Redirects (p.releaseSignals previous) := by
  have hall : ∀ (l : List (Signal × Disposition)) (p : Platform),
      p.Redirects (l.foldl restore p) := by
    intro l
    induction l with
    | nil => exact refl
    | cons d l ih => exact fun p => (redirect p d.1 d.2).trans (ih _)
  exact (hall previous.reverse p).trans rfl

theorem takeSignals (p : Platform) (c : Nat) : p.Redirects (p.takeSignals c).2.1 := by
  have htarget : p.Redirects { p with target := some c } := rfl
  have hcapture := htarget.trans (captureSignals Signal.fatal _)
  rw [Platform.takeSignals]
  split
  next h => rw [h] at hcapture; exact hcapture
  next h => rw [h] at hcapture; exact hcapture.trans (releaseSignals _ _)

end Platform.Redirects

/-- A request is refused, or done. -/
theorem Platform.redirect_cases (p : Platform) (s : Signal) (d : Disposition) :
    (∃ reason, p.redirect s d = ({ p with answers := p.answers.later }, .error reason)) ∨
      p.redirect s d =
        ({ p.setDisposition s d with answers := p.answers.later }, .ok (p.disposition s)) := by
  rw [redirect]
  cases p.answers.first with
  | some reason => exact Or.inl ⟨reason, rfl⟩
  | none => exact Or.inr rfl

/-- If the system refuses to have the fatal signals captured, none is kept. -/
theorem Platform.takeSignals_error {p p' : Platform} {c : Nat} {e : Error}
    {previous : List (Signal × Disposition)} (h : p.takeSignals c = (previous, p', .error e)) :
    ∃ kept q, captureSignals Signal.fatal { p with target := some c } = (kept, q, some e) ∧
      previous = [] ∧ p' = q.releaseSignals kept := by
  rw [takeSignals] at h
  split at h
  next => cases h
  next hq =>
    cases h
    exact ⟨_, _, hq, rfl, rfl⟩

namespace Answers.Accepts
variable {ε : Type} {a : Answers ε}

theorem first (h : a.Accepts) : a.first = none := by
  obtain ⟨hrest, hnext⟩ := h
  rw [Answers.first, hrest]
  cases hn : a.next with
  | nil => rfl
  | cons x xs => exact hnext x (hn ▸ List.mem_cons_self)

theorem later (h : a.Accepts) : a.later.Accepts :=
  ⟨h.1, fun x hx => h.2 x (List.mem_of_mem_tail hx)⟩

end Answers.Accepts

namespace Interceptor
variable {c k : Nat} {i i' : Interceptor} {is is' front back armed : List Interceptor}
  {p p₁ p' : Platform} {e : Error}

/-! ### One interceptor -/

theorem redirects_arm (previous : List (Signal × Disposition)) (c : Nat) (p : Platform) :
    p.Redirects ((fatalSignals previous).arm c p).2.1 := by
  cases previous with
  | nil => exact .takeSignals p c
  | cons => exact .refl p

/-- An interceptor refuses to be armed: what becomes of it and of the platform. -/
inductive Refuses (c : Nat) (p : Platform) (e : Error) :
    Interceptor → Interceptor → Platform → Prop where
  | counting {a : Answers Error} (h : a.first = some e) :
      Refuses c p e (.counting a) (.counting a.later) p
  /-- What it has taken over by then it releases again. -/
  | fatalSignals {kept : List (Signal × Disposition)} {q : Platform}
      (h : Platform.captureSignals Signal.fatal { p with target := some c } = (kept, q, some e)) :
      Refuses c p e (.fatalSignals []) (.fatalSignals []) (q.releaseSignals kept)

theorem refuses_arm (h : i.arm c p = (i', p', .error e)) : Refuses c p e i i' p' := by
  cases i with
  | panicHook => cases h
  | fatalSignals previous =>
      cases previous with
      | cons => cases h
      | nil =>
          rcases htake : p.takeSignals c with ⟨previous, q, result⟩
          simp only [arm, htake] at h
          cases h
          obtain ⟨kept, q, hq, rfl, rfl⟩ := Platform.takeSignals_error htake
          exact .fatalSignals hq
  | counting a =>
      simp only [arm] at h
      split at h
      next => cases h
      next hfirst =>
        cases h
        exact .counting hfirst

/-- An interceptor that counts is armed. -/
theorem counting_armed {a : Answers Error} (h : (counting a).arm c p = (i', p', .ok ())) :
    a.first = none ∧ i' = .counting a.later ∧ p' = { p with armed := p.armed + 1 } := by
  simp only [arm] at h
  split at h
  next hfirst =>
    cases h
    exact ⟨hfirst, rfl, rfl⟩
  next => cases h

/-! ### Up to the first that refuses -/

/-- The interceptors behind ones that are armed. -/
theorem armAll_append (h : armAll c front p = (armed, p₁, k, none)) (back : List Interceptor) :
    armAll c (front ++ back) p =
      match armAll c back p₁ with
      | (is, p', n, refusal) => (armed ++ is, p', k + n, refusal) := by
  induction front generalizing p armed k with
  | nil =>
      cases h
      simp only [List.nil_append, Nat.zero_add]
  | cons i front ih =>
      rw [List.cons_append]
      rw [armAll] at h ⊢
      split at h
      next => cases h
      next i' q hi =>
        rcases hfront : armAll c front q with ⟨armed', q', k', refusal'⟩
        rw [hfront] at h
        cases h
        simp only [ih hfront, List.cons_append, Nat.add_right_comm]

theorem length_armAll (c : Nat) (is : List Interceptor) (p : Platform) :
    (armAll c is p).1.length = is.length := by
  induction is generalizing p with
  | nil => rfl
  | cons i is ih =>
      rw [armAll]
      split
      next => rfl
      next i' q _ => exact congrArg (· + 1) (ih q)

/-- Interceptors of which one refuses to be armed: those in `front` of it are armed, and those at
the `back` are left alone. -/
structure Halt (c : Nat) (is : List Interceptor) (p : Platform) where
  front : List Interceptor
  refusing : Interceptor
  back : List Interceptor
  split : is = front ++ refusing :: back
  /-- Those in front when they are armed. -/
  armed : List Interceptor
  /-- The platform by then. -/
  reached : Platform
  arms : armAll c front p = (armed, reached, front.length, none)
  /-- The one that refuses afterwards. -/
  after : Interceptor
  /-- The platform afterwards. -/
  left : Platform
  error : Error
  refuses : refusing.arm c reached = (after, left, .error error)

namespace Halt

theorem length_armed (h : Halt c is p) : h.armed.length = h.front.length := by
  have hlength := length_armAll c h.front p
  rwa [h.arms] at hlength

theorem armAll (h : Halt c is p) :
    armAll c is p =
      (h.armed ++ h.after :: h.back, h.left, h.front.length, some ⟨h.after.name, h.error⟩) := by
  have hback : Interceptor.armAll c (h.refusing :: h.back) h.reached =
      (h.after :: h.back, h.left, 0, some ⟨h.after.name, h.error⟩) := by
    rw [Interceptor.armAll, h.refuses]
  conv => lhs; rw [h.split]
  rw [armAll_append h.arms, hback]
  rfl

/-- Behind one that is armed another one refuses. -/
def cons (hi : i.arm c p = (i', p₁, .ok ())) (h : Halt c is p₁) : Halt c (i :: is) p where
  front := i :: h.front
  refusing := h.refusing
  back := h.back
  split := congrArg (i :: ·) h.split
  armed := i' :: h.armed
  reached := h.reached
  arms := by
    rw [Interceptor.armAll, hi]
    simp only [h.arms, List.length_cons]
  after := h.after
  left := h.left
  error := h.error
  refuses := h.refuses

/-- What an installation makes of it: those that are armed are disarmed again. -/
def undone (h : Halt c is p) : List Interceptor × Platform :=
  disarmAll h.armed (h.left.note [.armFailed h.after.name h.error])

end Halt

/-- Either all interceptors are armed, or one refuses. -/
theorem armAll_cases (c : Nat) (is : List Interceptor) (p : Platform) :
    (∃ armed p', armAll c is p = (armed, p', is.length, none)) ∨ Nonempty (Halt c is p) := by
  induction is generalizing p with
  | nil => exact Or.inl ⟨_, _, rfl⟩
  | cons i is ih =>
      rcases hi : i.arm c p with ⟨i', q, result⟩
      cases result with
      | error e => exact Or.inr ⟨⟨[], i, is, rfl, [], p, rfl, i', q, e, hi⟩⟩
      | ok =>
          rcases ih q with ⟨armed, p', hrest⟩ | ⟨⟨h⟩⟩
          · refine Or.inl ⟨i' :: armed, p', ?_⟩
            rw [armAll, hi]
            simp only [hrest, List.length_cons]
          · exact Or.inr ⟨h.cons hi⟩

/-- If not all are armed, one refuses. -/
theorem exists_halt {refusal : Refusal} (h : armAll c is p = (is', p', k, some refusal)) :
    Nonempty (Halt c is p) := by
  rcases armAll_cases c is p with ⟨_, _, hall⟩ | hhalt
  · cases h.symm.trans hall
  · exact hhalt

end Interceptor
end Vigil
