import Vigil.Platform.Hook

/-!
# Platform — chains of hooks

A hook that was put in front of another runs first and then calls it.  `Hook.wrap` puts observers
in front of a hook, one before the other, and `Hook.Within` says of a hook that it is another one
with observers in front of it whose numbers lie in a range.

* `captures_eq`: a panic is recorded by the observers that are active, in order.
* `captures_of_within`: observers in front that are not active make no difference.
* `count_chain`: a hook that others were put in front of still runs exactly once.
-/

namespace Vigil.Hook

/-- The hooks that run on a panic, in order: each but the last calls the next. -/
def chain : Hook → List Hook
  | .base => [.base]
  | .observe observer capture next => .observe observer capture next :: next.chain

/-- The observers with the captures they record with, in the order in which they run. -/
def layers : Hook → List (Nat × Nat)
  | .base => []
  | .observe observer capture next => (observer, capture) :: next.layers

/-- A hook with observers put in front of it. -/
def wrap (h : Hook) (ls : List (Nat × Nat)) : Hook :=
  ls.foldr (fun l next => .observe l.1 l.2 next) h

/-- `h` is the hook `h₀` with observers in front whose numbers are `n` or more, but less than
`m`. -/
def Within (h : Hook) (n m : Nat) (h₀ : Hook) : Prop :=
  ∃ ls, h = h₀.wrap ls ∧ ∀ l ∈ ls, n ≤ l.1 ∧ l.1 < m

section
variable {active active' : Nat → Bool} {h h₀ h₁ : Hook} {n m n' m' : Nat}

/-! ### What is recorded -/

theorem captures_eq (active : Nat → Bool) (h : Hook) :
    h.captures active = (h.layers.filter fun l => active l.1).map (·.2) := by
  induction h with
  | base => rfl
  | observe observer capture next ih =>
      rw [captures, layers, List.filter_cons, ih]
      split <;> rfl

/-- Only the observers of the hook matter. -/
theorem captures_congr (ha : ∀ l ∈ h.layers, active l.1 = active' l.1) :
    h.captures active = h.captures active' := by
  rw [captures_eq, captures_eq, List.filter_congr ha]

theorem layers_wrap (h : Hook) (ls : List (Nat × Nat)) : (h.wrap ls).layers = ls ++ h.layers := by
  induction ls with
  | nil => rfl
  | cons l ls ih => exact congrArg (l :: ·) ih

theorem wrap_append (h : Hook) (ls ls' : List (Nat × Nat)) :
    h.wrap (ls ++ ls') = (h.wrap ls').wrap ls :=
  List.foldr_append

/-! ### Observers in front -/

namespace Within

theorem refl (n m : Nat) (h : Hook) : h.Within n m h := ⟨[], rfl, nofun⟩

theorem mono (h : h₁.Within n m h₀) (hn : n' ≤ n) (hm : m ≤ m') : h₁.Within n' m' h₀ := by
  obtain ⟨ls, heq, hls⟩ := h
  exact ⟨ls, heq, fun l hl => ⟨Nat.le_trans hn (hls l hl).1, Nat.lt_of_lt_of_le (hls l hl).2 hm⟩⟩

theorem trans (h₀₁ : h₁.Within n m h₀) (h₁₂ : h.Within n m h₁) : h.Within n m h₀ := by
  obtain ⟨ls, rfl, hls⟩ := h₀₁
  obtain ⟨ls', rfl, hls'⟩ := h₁₂
  refine ⟨ls' ++ ls, (wrap_append ..).symm, fun l hl => ?_⟩
  exact (List.mem_append.1 hl).elim (hls' l) (hls l)

theorem observe {observer : Nat} (h : h₁.Within n m h₀) (hn : n ≤ observer) (hm : observer < m)
    (capture : Nat) : (Hook.observe observer capture h₁).Within n m h₀ := by
  obtain ⟨ls, rfl, hls⟩ := h
  refine ⟨(observer, capture) :: ls, rfl, fun l hl => ?_⟩
  rcases List.mem_cons.1 hl with rfl | hl
  · exact ⟨hn, hm⟩
  · exact hls l hl

/-- An observer is one of those in front, or was there before. -/
theorem mem_layers (h : h₁.Within n m h₀) {l : Nat × Nat} (hl : l ∈ h₁.layers) :
    n ≤ l.1 ∧ l.1 < m ∨ l ∈ h₀.layers := by
  obtain ⟨ls, rfl, hls⟩ := h
  rw [layers_wrap] at hl
  exact (List.mem_append.1 hl).imp (hls l) id

end Within

/-- Observers in front that are not active make no difference. -/
theorem captures_of_within (h : h₁.Within n m h₀) (ha : ∀ x, n ≤ x → x < m → active x = false) :
    h₁.captures active = h₀.captures active := by
  obtain ⟨ls, rfl, hls⟩ := h
  have hnone : ls.filter (fun l => active l.1) = [] :=
    List.filter_eq_nil_iff.2 fun l hl => by
      rw [ha l.1 (hls l hl).1 (hls l hl).2]
      exact Bool.false_ne_true
  rw [captures_eq, captures_eq, layers_wrap, List.filter_append, hnone, List.nil_append]

/-! ### How often a hook runs -/

theorem length_layers_of_mem_chain (hm : h₁ ∈ h.chain) :
    h₁.layers.length ≤ h.layers.length := by
  induction h with
  | base =>
      cases List.mem_singleton.1 hm
      exact Nat.le_refl _
  | observe observer capture next ih =>
      rcases List.mem_cons.1 hm with rfl | hm
      · exact Nat.le_refl _
      · exact Nat.le_trans (ih hm) (Nat.le_succ _)

/-- A hook is not called by itself. -/
theorem count_chain_self (h : Hook) : h.chain.count h = 1 := by
  cases h with
  | base => rfl
  | observe observer capture next =>
      have hnot : Hook.observe observer capture next ∉ next.chain := fun hm =>
        Nat.lt_irrefl _ (length_layers_of_mem_chain hm)
      rw [chain, List.count_cons_self, List.count_eq_zero_of_not_mem hnot]

theorem count_chain_wrap (h : Hook) (ls : List (Nat × Nat)) : (h.wrap ls).chain.count h = 1 := by
  induction ls with
  | nil => exact count_chain_self h
  | cons l ls ih =>
      -- A hook with observers in front has more observers than it has itself.
      have hne : h.wrap (l :: ls) ≠ h := fun heq => by
        have hlength := congrArg (fun g => g.layers.length) heq
        simp only [layers_wrap, List.length_append, List.length_cons] at hlength
        omega
      have hcons : (h.wrap (l :: ls)).chain = h.wrap (l :: ls) :: (h.wrap ls).chain := rfl
      rw [hcons, List.count_cons_of_ne hne, ih]

/-- A hook that others were put in front of still runs exactly once. -/
theorem count_chain (h : h₁.Within n m h₀) : h₁.chain.count h₀ = 1 := by
  obtain ⟨ls, rfl, -⟩ := h
  exact count_chain_wrap h₀ ls

end
end Vigil.Hook
