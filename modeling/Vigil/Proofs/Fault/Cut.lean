import Mathlib.Algebra.GroupWithZero.Nat
import Vigil.Fault.Report

/-!
# Fault — where separators are found

A log is cut before every separator.  A separator in a text that was put together lies within one
of the parts or across a seam.  No seam can be crossed next to a text that no separator begins or
ends in (`Opens`, `Closes`); this is decidable, so it can be checked for the fixed pieces of a text, and
the separators of the text are then those of what stands between them (`Sealed.behind`).

* `cut_append`: cutting a text that was put together.
* `marks_eq_zero_iff`: a text without a separator is not cut.
* `cut_flatten`: texts that begin with their only separator are found again.
-/

namespace Vigil.Fault.Report

/-- The number of separators in a text. -/
def marks (s : List Char) : Nat := (cut s).2.length

/-- No separator lies across the seam between two texts. -/
def Apart (x y : List Char) : Prop :=
  ∀ a b, a ++ b = separator → a ≠ [] → b ≠ [] → a <:+ x → ¬ b <+: y

/-! ### Cutting a text that was put together -/

theorem cut_cons (c : Char) (s : List Char) :
    cut (c :: s) = if separator.isPrefixOf (c :: s) then ([], (c :: (cut s).1) :: (cut s).2)
      else (c :: (cut s).1, (cut s).2) := rfl

theorem marks_cons (c : Char) (s : List Char) :
    marks (c :: s) = marks s + if separator.isPrefixOf (c :: s) then 1 else 0 := by
  rw [marks, cut_cons]
  split <;> rfl

/-- The pieces of a text are the text. -/
theorem flatten_cut (s : List Char) : (cut s).1 ++ (cut s).2.flatten = s := by
  induction s with
  | nil => rfl
  | cons c s ih =>
      rw [cut_cons]
      split
      · exact congrArg (c :: ·) ih
      · exact congrArg (c :: ·) ih

theorem Apart.tail {c : Char} {x y : List Char} (h : Apart (c :: x) y) : Apart x y :=
  fun a b hab ha hb hax => h a b hab ha hb (hax.trans (List.suffix_cons c x))

/-- A separator at the beginning lies in the first text. -/
theorem Apart.isPrefixOf {c : Char} {x y : List Char} (h : Apart (c :: x) y) :
    separator.isPrefixOf (c :: x ++ y) = separator.isPrefixOf (c :: x) := by
  rw [Bool.eq_iff_iff, List.isPrefixOf_iff_prefix, List.isPrefixOf_iff_prefix]
  refine ⟨fun hp => ?_, fun hp => hp.trans (List.prefix_append _ _)⟩
  rcases List.prefix_or_prefix_of_prefix hp (List.prefix_append (c :: x) y) with hx | ⟨b, hb⟩
  · exact hx
  · by_cases hne : b = []
    · rw [hne, List.append_nil] at hb
      exact hb ▸ List.prefix_refl _
    · rw [← hb, List.prefix_append_right_inj] at hp
      exact absurd hp (h (c :: x) b hb (List.cons_ne_nil c x) hne (List.suffix_refl _))

/-- The separators of a text that was put together are those of its parts; and its pieces are
those of the parts, if the second begins with a piece. -/
theorem cut_append {x y : List Char} (h : Apart x y) :
    marks (x ++ y) = marks x + marks y ∧
      ((cut y).1 = [] → cut (x ++ y) = ((cut x).1, (cut x).2 ++ (cut y).2)) := by
  induction x with
  | nil =>
      refine ⟨(Nat.zero_add _).symm, fun hy => ?_⟩
      exact Prod.ext hy rfl
  | cons c x ih =>
      -- Whether a piece begins at `c` is seen in the first text alone.
      obtain ⟨hmarks, hcut⟩ := ih h.tail
      have hp := h.isPrefixOf
      rw [List.cons_append] at hp ⊢
      refine ⟨?_, fun hy => ?_⟩
      · rw [marks_cons, marks_cons, hp, hmarks]
        omega
      · rw [cut_cons, cut_cons, hp, hcut hy]
        split <;> rfl

/-! ### Texts without a separator -/

theorem marks_eq_zero_iff {s : List Char} : marks s = 0 ↔ ¬ separator <:+: s := by
  induction s with
  | nil => exact ⟨fun _ h => absurd (List.infix_nil.1 h) (by decide), fun _ => rfl⟩
  | cons c s ih =>
      rw [marks_cons, List.infix_cons_iff, not_or, ← ih, ← List.isPrefixOf_iff_prefix]
      cases separator.isPrefixOf (c :: s) <;> simp

theorem marks_of_not_mem {s : List Char} {c : Char} (hc : c ∈ separator) (hs : c ∉ s) :
    marks s = 0 :=
  marks_eq_zero_iff.2 fun h => hs (h.subset hc)

/-! ### Pieces that fence a text -/

/-- No separator begins in the text and goes on behind it. -/
def Opens (l : List Char) : Prop :=
  ∀ n < separator.length, 0 < n → ¬ separator.take n <:+ l

/-- No separator that begins before the text ends in it or behind it. -/
def Closes (l : List Char) : Prop :=
  ∀ n < separator.length, 0 < n → ¬ separator.drop n <+: l ∧ ¬ l <+: separator.drop n

instance (l : List Char) : Decidable (Opens l) :=
  inferInstanceAs (Decidable (∀ n < separator.length, 0 < n → ¬ separator.take n <:+ l))

instance (l : List Char) : Decidable (Closes l) :=
  inferInstanceAs (Decidable (∀ n < separator.length, 0 < n →
    ¬ separator.drop n <+: l ∧ ¬ l <+: separator.drop n))

/-- The two parts of a separator. -/
theorem parts_of_separator {a b : List Char} (h : a ++ b = separator) (ha : a ≠ []) (hb : b ≠ []) :
    a.length < separator.length ∧ 0 < a.length ∧ a = separator.take a.length ∧
      b = separator.drop a.length := by
  rw [← h]
  refine ⟨?_, List.length_pos_iff.2 ha, List.take_left.symm, List.drop_left.symm⟩
  rw [List.length_append]
  exact Nat.lt_add_of_pos_right (List.length_pos_iff.2 hb)

theorem Opens.apart {l : List Char} (h : Opens l) (y : List Char) : Apart l y := by
  intro a b hab ha hb hal
  obtain ⟨hlt, hpos, hta, -⟩ := parts_of_separator hab ha hb
  rw [hta] at hal
  exact absurd hal (h a.length hlt hpos)

theorem Closes.apart {l : List Char} (h : Closes l) (x y : List Char) : Apart x (l ++ y) := by
  intro a b hab ha hb _ hby
  obtain ⟨hlt, hpos, -, htb⟩ := parts_of_separator hab ha hb
  have hno := h a.length hlt hpos
  rw [← htb] at hno
  rcases List.prefix_or_prefix_of_prefix hby (List.prefix_append l y) with hbl | hlb
  · exact absurd hbl hno.1
  · exact absurd hlb hno.2

/-- No separator lies in the text or goes across one of its ends. -/
def Fence (l : List Char) : Prop := Opens l ∧ Closes l ∧ marks l = 0

instance (l : List Char) : Decidable (Fence l) :=
  inferInstanceAs (Decidable (Opens l ∧ Closes l ∧ marks l = 0))

/-! ### Sealed texts -/

/-- No separator goes across the beginning of the text. -/
def Fenced (y : List Char) : Prop := ∀ x, Apart x y

/-- A text with `n` separators of its own; none goes across its beginning, and none across its end
if none goes across the beginning of what follows. -/
def Sealed (n : Nat) (s : List Char) : Prop :=
  ∀ rest, Fenced rest → Fenced (s ++ rest) ∧ marks (s ++ rest) = n + marks rest

theorem fenced_nil : Fenced [] := fun _ _ _ _ _ hb _ h => hb (List.prefix_nil.1 h)

namespace Sealed
variable {n m : Nat} {s t l : List Char}

theorem marks_eq (h : Sealed n s) : marks s = n := by
  have hs := (h [] fenced_nil).2
  rwa [List.append_nil] at hs

theorem nil : Sealed 0 [] := fun _ h => ⟨h, (Nat.zero_add _).symm⟩

theorem append (hs : Sealed n s) (ht : Sealed m t) : Sealed (n + m) (s ++ t) := by
  intro rest hrest
  obtain ⟨hft, hmt⟩ := ht rest hrest
  obtain ⟨hfs, hms⟩ := hs (t ++ rest) hft
  rw [List.append_assoc]
  exact ⟨hfs, by rw [hms, hmt, Nat.add_assoc]⟩

/-- A piece that no separator leaves keeps the separators behind it apart. -/
theorem piece (ho : Opens l) (hc : Closes l) (p : List Char) :
    Sealed (marks l + marks p) (l ++ p) := by
  intro rest hrest
  rw [List.append_assoc]
  refine ⟨fun x => hc.apart x _, ?_⟩
  rw [(cut_append (ho.apart (p ++ rest))).1, (cut_append (hrest p)).1, Nat.add_assoc]

/-- What stands behind a fence. -/
theorem behind (h : Fence l) (p : List Char) : Sealed (marks p) (l ++ p) := by
  have hp := piece h.1 h.2.1 p
  rwa [h.2.2, Nat.zero_add] at hp

theorem fence (h : Fence l) : Sealed 0 l := by
  have hl := behind h []
  rwa [List.append_nil] at hl

theorem flatMap {α : Type} {f : α → List Char} {g : α → Nat} {l : List α}
    (h : ∀ a ∈ l, Sealed (g a) (f a)) : Sealed (l.map g).sum (l.flatMap f) := by
  induction l with
  | nil => exact nil
  | cons a l ih =>
      rw [List.map_cons, List.sum_cons, List.flatMap_cons]
      exact (h a List.mem_cons_self).append (ih fun b hb => h b (List.mem_cons_of_mem _ hb))

end Sealed

/-- Texts that each begin with a separator and have no other are the pieces of what they make
together. -/
theorem cut_flatten {bs : List (List Char)} (h : ∀ b ∈ bs, separator <+: b ∧ Sealed 1 b) :
    cut bs.flatten = ([], bs) ∧ Fenced bs.flatten := by
  induction bs with
  | nil => exact ⟨rfl, fenced_nil⟩
  | cons b bs ih =>
      obtain ⟨hcut, hfenced⟩ := ih fun c hc => h c (List.mem_cons_of_mem _ hc)
      obtain ⟨hpre, hsealed⟩ := h b List.mem_cons_self
      refine ⟨?_, (hsealed _ hfenced).1⟩
      have hfront : (cut b).1 = [] := by
        cases b with
        | nil => rfl
        | cons c b => rw [cut_cons, if_pos (List.isPrefixOf_iff_prefix.2 hpre)]
      -- Nothing comes before the only separator, so the text is its only piece.
      have hself : (cut b).2 = [b] := by
        obtain ⟨p, hp⟩ := List.length_eq_one_iff.1 hsealed.marks_eq
        have hflat := flatten_cut b
        rw [hfront, hp] at hflat
        rw [hp, ← hflat]
        simp
      rw [List.flatten_cons, (cut_append (hfenced b)).2 (by rw [hcut]), hfront, hself, hcut]
      rfl

end Vigil.Fault.Report
