import Vigil.Proofs.Files.Operation

/-!
# Files — one file among others

A change may spare all that is there but what is at one place (`Tree.Spares`).  And where a path
leads does not depend on what files hold (`Tree.SameShape`).

* `Spares.find?`: what is at another place stays.
* `SameShape.resolve`, `SameShape.read`: paths lead where they led, and another file reads the same.
-/

namespace Vigil.Tree

/-! ### What a change spares -/

/-- Only what is at one place is changed, and things may be put where nothing was. -/
def Spares (p : Place) (t t' : Tree) : Prop := Keeps (fun q => q = p ∨ t.find? q = none) t t'

namespace Spares
variable {p : Place} {t t₁ t' : Tree}

theorem refl (p : Place) (t : Tree) : Spares p t t := Keeps.refl t

/-- What is at another place stays. -/
theorem find? (h : Spares p t t') {q : Place} {e : Entry} (hq : q ≠ p) (he : t.find? q = some e) :
    t'.find? q = some e :=
  (h.elsewhere q fun ht => ht.elim hq fun hn => nomatch hn.symm.trans he).trans he

theorem trans (h₁ : Spares p t t₁) (h₂ : Spares p t₁ t') : Spares p t t' := by
  refine Keeps.trans h₁ (h₂.mono fun q hq => Decidable.or_iff_not_imp_left.2 fun hp => ?_)
  cases he : t.find? q with
  | none => rfl
  | some e => cases (hq.resolve_left hp).symm.trans (h₁.find? hp he)

theorem of_keeps (h : Keeps (· = p) t t') : Spares p t t' := h.mono fun _ => Or.inl

end Spares

theorem Adds.spares {touched : Place → Prop} {t t' : Tree} (h : Adds touched t t') (p : Place) :
    Spares p t t' := h.changes.mono fun _ ht => Or.inr ht.2

/-! ### What files hold -/

/-- The trees are the same but for what files hold. -/
structure SameShape (t t' : Tree) : Prop where
  workingDirectory : t'.workingDirectory = t.workingDirectory
  kinds : ∀ p, (t'.find? p).map Entry.isDirectory = (t.find? p).map Entry.isDirectory

namespace SameShape
variable {t t' : Tree}

theorem isSome (h : SameShape t t') (p : Place) : (t'.find? p).isSome = (t.find? p).isSome := by
  have hk := congrArg Option.isSome (h.kinds p)
  rwa [Option.isSome_map, Option.isSome_map] at hk

theorem needDirectory (h : SameShape t t') (p : Place) :
    t'.needDirectory p = t.needDirectory p := by
  have hk := h.kinds p
  rw [Tree.needDirectory, Tree.needDirectory]
  rcases hp : t.find? p with _ | ⟨_, _⟩ | _ <;> rcases hp' : t'.find? p with _ | ⟨_, _⟩ | _ <;>
    rw [hp, hp'] at hk <;> first | rfl | cases hk

theorem step (h : SameShape t t') : t'.step = t.step := by
  funext p name
  rw [Tree.step, Tree.step, h.needDirectory, h.isSome]

/-- Paths lead where they led. -/
theorem resolve (h : SameShape t t') (path : String) : t'.resolve path = t.resolve path := by
  rw [Tree.resolve, Tree.resolve, Tree.origin, Tree.origin, h.workingDirectory, h.step]
  simp only [h.needDirectory]

/-- A file that was not changed reads the same. -/
theorem read (h : SameShape t t') {path : String}
    (hp : t'.find? (t.place path) = t.find? (t.place path)) : t'.read path = t.read path := by
  rw [Tree.read, Tree.read, h.resolve]
  cases hr : t.resolve path with
  | error f => rfl
  | ok p =>
      obtain rfl := place_of_resolve hr
      simp only [bind, Except.bind, hp]

end SameShape

/-- What a file holds is replaced. -/
theorem sameShape_put {t : Tree} {p : Place} {id : Nat} {b : Bytes}
    (hf : t.find? p = some (.file id b)) (b' : Bytes) : SameShape t (t.put p (.file id b')) := by
  have hp : p ≠ [] := fun h => by
    rw [h] at hf
    cases hf
  refine ⟨rfl, fun q => ?_⟩
  rw [find?_put _ hp]
  split
  next hq => rw [hq, hf]; rfl
  next => rfl

end Vigil.Tree
