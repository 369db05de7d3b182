import Vigil.Proofs.Files.Parent

/-!
# Files — plain names

A plain name is spelled in the one way there is, with no `.`, no `..` and no slash too many.  In a
directory it leads below the place of the directory, and two plain names lead to one place only if
they are the same.

* `names_join`: the names of a relative path in a directory.
* `place_join`, `Plain.eq_of_place`: where a plain name leads, and that it is told by that.
-/

namespace Vigil

namespace Path

/-- A name, or several with single slashes between them, none of them `.` or `..`. -/
def Plain (part : String) : Prop :=
  ∀ piece ∈ pieces part.toList, piece ≠ [] ∧ piece ≠ ['.'] ∧ piece ≠ ['.', '.']

instance (part : String) : Decidable (Plain part) :=
  inferInstanceAs (Decidable (∀ piece ∈ pieces part.toList, _))

theorem pieces_ne_nil (s : List Char) : pieces s ≠ [] := pieces_eq s ▸ List.splitOn_ne_nil _ _

theorem pieces_append (s t : List Char) : pieces (s ++ '/' :: t) = pieces s ++ pieces t := by
  induction s with
  | nil => exact if_pos rfl
  | cons c s ih =>
      rw [List.cons_append, pieces, pieces, ih]
      split
      next => rfl
      next =>
        cases hs : pieces s with
        | nil => exact absurd hs (pieces_ne_nil s)
        | cons p ps => rfl

theorem names_append {s t : List Char} {path : String} (h : path.toList = s ++ '/' :: t) :
    names path = namesOf (pieces s) ++ namesOf (pieces t) := by
  rw [names, h, pieces_append, List.filter_append, List.map_append]
  rfl

namespace Plain
variable {part : String}

theorem isAbsolute (h : Plain part) : isAbsolute part = false := by
  rw [Path.isAbsolute, decide_eq_false_iff_not, List.head?_eq_some_iff]
  rintro ⟨s, hs⟩
  refine (h [] ?_).1 rfl
  rw [hs, pieces, if_pos rfl]
  exact List.mem_cons_self

theorem names_eq (h : Plain part) : names part = (pieces part.toList).map String.ofList := by
  rw [names, List.filter_eq_self.2 fun piece hp => ?_]
  rw [Bool.not_eq_true', ← Bool.not_eq_true, List.isEmpty_iff]
  exact (h piece hp).1

/-- Each of its names is followed. -/
theorem foldl_move (h : Plain part) (p : Place) :
    (names part).foldl move p = p ++ names part := by
  rw [h.names_eq]
  have hpieces := h
  rw [Plain] at hpieces
  generalize pieces part.toList = ps at hpieces
  induction ps generalizing p with
  | nil => rw [List.map_nil, List.foldl_nil, List.append_nil]
  | cons piece ps ih =>
      obtain ⟨-, hdot, hdots⟩ := hpieces piece List.mem_cons_self
      have h₁ : String.ofList piece ≠ "." := fun h => hdot (String.ofList_injective h)
      have h₂ : String.ofList piece ≠ ".." := fun h => hdots (String.ofList_injective h)
      rw [List.map_cons, List.foldl_cons, move_name h₁ h₂,
        ih _ fun q hq => hpieces q (List.mem_cons_of_mem _ hq), List.append_assoc]
      rfl

end Plain

/-- A path goes on from the place of a directory. -/
theorem start_append {base : String} (hb : base ≠ "") (wd : Place) (rest : String) :
    start wd (base ++ rest) = start wd base := by
  have habs : isAbsolute (base ++ rest) = isAbsolute base := by
    rw [isAbsolute, isAbsolute, String.toList_append]
    cases hl : base.toList with
    | nil => exact absurd (String.toList_eq_nil_iff.1 hl) hb
    | cons => rfl
  rw [start, start, habs]

/-- A relative path in a directory: the names of the directory and its own, from where the
directory starts. -/
theorem names_join {part : String} (h : isAbsolute part = false) (wd : Place) (base : String) :
    names (join base part) = names base ++ names part ∧
      start wd (join base part) = start wd base := by
  rw [join, h, if_neg Bool.false_ne_true]
  by_cases hb : base = ""
  · have hjoin : "" ++ part = part := String.empty_append
    rw [hb, if_pos (by decide), hjoin, start, h]
    exact ⟨rfl, rfl⟩
  have hempty : base.isEmpty = false := Bool.eq_false_iff.2 fun h => hb (String.isEmpty_iff.1 h)
  rw [hempty, Bool.false_or]
  split
  next hslash =>
    obtain ⟨s, hs⟩ := List.getLast?_eq_some_iff.1 (of_decide_eq_true hslash)
    have hbase : names base = namesOf (pieces s) ++ namesOf (pieces []) := names_append hs
    have hjoined : (base ++ part).toList = s ++ '/' :: part.toList := by
      rw [String.toList_append, hs, List.append_assoc]
      rfl
    refine ⟨?_, start_append hb wd part⟩
    rw [names_append hjoined, hbase]
    exact congrArg (· ++ _) (List.append_nil _).symm
  next =>
    have hjoined : (base ++ "/" ++ part).toList = base.toList ++ '/' :: part.toList := by
      rw [String.toList_append, String.toList_append, List.append_assoc]
      rfl
    refine ⟨names_append hjoined, ?_⟩
    rw [String.append_assoc]
    exact start_append hb wd _

/-- Where a plain name in a directory leads. -/
theorem place_join {part : String} (h : Plain part) (wd : Place) (base : String) :
    place wd (join base part) = place wd base ++ names part := by
  obtain ⟨hnames, hstart⟩ := names_join h.isAbsolute wd base
  rw [place, hnames, hstart, List.foldl_append, h.foldl_move]
  rfl

/-- Plain names are told apart by where they lead. -/
theorem Plain.eq_of_place {a b base : String} {wd : Place} (ha : Plain a) (hb : Plain b)
    (h : place wd (join base a) = place wd (join base b)) : a = b := by
  rw [place_join ha, place_join hb, List.append_cancel_left_eq, ha.names_eq, hb.names_eq] at h
  have hpieces : pieces a.toList = pieces b.toList :=
    (List.map_inj_right fun _ _ h => String.ofList_injective h).1 h
  rw [← String.toList_inj, ← unpieces_pieces a.toList, hpieces, unpieces_pieces]

end Path
end Vigil
