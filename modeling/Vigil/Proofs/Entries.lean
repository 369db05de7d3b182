/-!
# Entries

What is met in a list in which one entry was replaced, or to which one was added: the reporters of a
program, and the sweepers of a host, are kept in such lists.
-/

namespace Vigil
variable {α : Type} {xs : List α} {x y : α} {i k : Nat}

/-- An entry is the one that was put there, or as before. -/
theorem entry_set (h : (xs.set k x)[i]? = some y) : i = k ∧ y = x ∨ i ≠ k ∧ xs[i]? = some y := by
  by_cases hik : i = k
  · subst hik
    have hlt := (List.getElem?_eq_some_iff.1 h).1
    rw [List.length_set] at hlt
    rw [List.getElem?_set_self hlt] at h
    exact Or.inl ⟨rfl, (Option.some.inj h).symm⟩
  · rw [List.getElem?_set_ne (Ne.symm hik)] at h
    exact Or.inr ⟨hik, h⟩

/-- An entry is the one that was added, or as before. -/
theorem entry_concat (h : (xs ++ [x])[i]? = some y) :
    i = xs.length ∧ y = x ∨ xs[i]? = some y := by
  rcases Nat.lt_trichotomy i xs.length with hlt | rfl | hgt
  · rw [List.getElem?_append_left hlt] at h
    exact Or.inr h
  · rw [List.getElem?_concat_length] at h
    exact Or.inl ⟨rfl, (Option.some.inj h).symm⟩
  · rw [List.getElem?_eq_none (by rw [List.length_append]; exact hgt)] at h
    cases h

end Vigil
