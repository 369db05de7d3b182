/-!
# Runs

`Run Step s es s'`: steps of `Step` lead from `s` to `s'`, and `es` are their events in order.
Runs are closed under composition (`Run.trans`) and can be cut at any event (`Run.split`).  What
one step preserves a whole run preserves (`Run.preserves`); where the past matters, a step is met
with all the events before it (`Run.history`).
-/

namespace Vigil
variable {σ ε : Type} {Step : σ → ε → σ → Prop}

/-- Steps one after the other, with their events. -/
inductive Run (Step : σ → ε → σ → Prop) : σ → List ε → σ → Prop where
  | refl (s : σ) : Run Step s [] s
  | more {s s₁ s' : σ} {e : ε} {es : List ε}
      (h : Step s e s₁) (t : Run Step s₁ es s') : Run Step s (e :: es) s'

namespace Run

theorem one {s s' : σ} {e : ε} (h : Step s e s') : Run Step s [e] s' := .more h (.refl _)

theorem trans {s s₁ s' : σ} {es fs : List ε} (h : Run Step s es s₁) (t : Run Step s₁ fs s') :
    Run Step s (es ++ fs) s' := by
  induction h with
  | refl => exact t
  | more h _ ih => exact .more h (ih t)

/-- A run can be cut before any event. -/
theorem split {s s' : σ} {es fs : List ε} (h : Run Step s (es ++ fs) s') :
    ∃ s₁, Run Step s es s₁ ∧ Run Step s₁ fs s' := by
  induction es generalizing s with
  | nil => exact ⟨s, .refl s, h⟩
  | cons e es ih =>
      cases h with
      | more h t =>
          obtain ⟨s₁, h₁, h₂⟩ := ih t
          exact ⟨s₁, .more h h₁, h₂⟩

/-- A run met at one of its events: what comes before, the step, and what comes after. -/
theorem split_at {s s' : σ} {es fs : List ε} {e : ε} (h : Run Step s (es ++ e :: fs) s') :
    ∃ s₁ s₂, Run Step s es s₁ ∧ Step s₁ e s₂ ∧ Run Step s₂ fs s' := by
  obtain ⟨s₁, h₁, h₂⟩ := h.split
  cases h₂ with
  | more h₂ t => exact ⟨s₁, _, h₁, h₂, t⟩

/-- What every step preserves, a run preserves. -/
theorem preserves {I : σ → Prop} (hstep : ∀ {s e s'}, Step s e s' → I s → I s') {s s' : σ}
    {es : List ε} (h : Run Step s es s') (h₀ : I s) : I s' := by
  induction h with
  | refl => exact h₀
  | more h _ ih => exact ih (hstep h h₀)

/-- What holds of the beginning, and of each step's result if it held of what came before the
step, holds of the whole run. -/
theorem history {I : List ε → σ → Prop} {s₀ s' : σ} {es : List ε} (h₀ : I [] s₀)
    (hstep : ∀ {fs s e s₁}, I fs s → Step s e s₁ → I (fs ++ [e]) s₁) (h : Run Step s₀ es s') :
    I es s' := by
  have aux : ∀ {s es s'}, Run Step s es s' → ∀ fs, I fs s → I (fs ++ es) s' := by
    intro s es s' h
    induction h with
    | refl => intro fs hI; rwa [List.append_nil]
    | @more _ _ _ e es h _ ih =>
        intro fs hI
        rw [List.append_cons]
        exact ih _ (hstep hI h)
  exact aux h [] h₀

end Run
end Vigil
