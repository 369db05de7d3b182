import Vigil.Proofs.Files.Operation

/-!
# Files — the directory above a path

The parent of a path, as a text, names the directory in which the last name of the path is looked
for: between the two there is nothing but names that stay where they are.

* `names_parent?`: the names of a path are those of its parent, some `.`, and the last one.
* `makeParents_of_resolveParent`: if the directory is there, nothing has to be made.
* `Ready.opens`, `ready_openAppend`: a file that was opened to append to it can be opened again.
-/

namespace Vigil

namespace Path

/-! ### The pieces of a path -/

theorem pieces_eq (s : List Char) : pieces s = s.splitOn '/' := by
  induction s with
  | nil => rfl
  | cons c s ih =>
      rw [List.splitOn_cons_eq_if_modifyHead, pieces, ih]
      by_cases hc : c = '/'
      · rw [if_pos hc, if_pos (beq_iff_eq.2 hc)]
      · rw [if_neg hc, if_neg (by rw [beq_iff_eq]; exact hc)]
        cases hs : s.splitOn '/' with
        | nil => exact absurd hs (List.splitOn_ne_nil _ _)
        | cons => rfl

theorem slash_notMem {s q : List Char} (h : q ∈ pieces s) : '/' ∉ q := by
  induction s generalizing q with
  | nil =>
      cases List.mem_singleton.1 h
      exact List.not_mem_nil
  | cons c s ih =>
      rw [pieces] at h
      split at h
      next =>
        rcases List.mem_cons.1 h with rfl | h
        · exact List.not_mem_nil
        · exact ih h
      next hc =>
        have hcons : ∀ p : List Char, '/' ∉ p → '/' ∉ c :: p := fun p hp hm =>
          (List.mem_cons.1 hm).elim (fun heq => hc heq.symm) hp
        split at h
        next =>
          cases List.mem_singleton.1 h
          exact hcons [] List.not_mem_nil
        next p ps hps =>
          rw [hps] at ih
          rcases List.mem_cons.1 h with rfl | h
          · exact hcons p (ih List.mem_cons_self)
          · exact ih (List.mem_cons_of_mem p h)

theorem unpieces_pieces (s : List Char) : unpieces (pieces s) = s := by
  rw [unpieces, pieces_eq, List.intercalate_splitOn]

theorem pieces_unpieces {ps : List (List Char)} (h : ∀ p ∈ ps, '/' ∉ p) (hne : ps ≠ []) :
    pieces (unpieces ps) = ps := by
  rw [unpieces, pieces_eq, List.splitOn_intercalate _ h hne]

theorem unpieces_take_prefix (ps : List (List Char)) (n : Nat) :
    unpieces (ps.take n) <+: unpieces ps := by
  induction ps generalizing n with
  | nil => exact ⟨[], by rw [List.take_nil, List.append_nil]⟩
  | cons p ps ih =>
      cases n with
      | zero => exact List.nil_prefix
      | succ n =>
          cases ps with
          | nil => exact ⟨[], by rw [List.take_succ_cons, List.take_nil, List.append_nil]⟩
          | cons q ps =>
              cases n with
              | zero => exact ⟨'/' :: unpieces (q :: ps), by simp [unpieces]⟩
              | succ n =>
                  have hih := ih (n + 1)
                  simp only [List.take_succ_cons, unpieces, List.intercalate_cons_cons] at hih ⊢
                  exact List.prefix_append_right_inj _ |>.2 hih

/-- The names that pieces are. -/
def namesOf (ps : List (List Char)) : List String := (ps.filter (!·.isEmpty)).map String.ofList

theorem mem_componentPositions {ps : List (List Char)} {i : Nat} :
    i ∈ componentPositions ps ↔ ∃ p, ps[i]? = some p ∧ isComponent i p = true := by
  rw [componentPositions, List.mem_filter, List.mem_range]
  constructor
  · rintro ⟨hi, hc⟩
    rw [List.getD_eq_getElem?_getD, List.getElem?_eq_getElem hi] at hc
    exact ⟨_, List.getElem?_eq_getElem hi, hc⟩
  · rintro ⟨p, hp, hc⟩
    refine ⟨(List.getElem?_eq_some_iff.1 hp).1, ?_⟩
    rw [List.getD_eq_getElem?_getD, hp]
    exact hc

/-- Behind all components but one there are only names that stay, up to the last one. -/
theorem names_drop {ps : List (List Char)} {n j : Nat} {before : List String} {name : String}
    (hj : j ∈ componentPositions ps) (hn : n ≤ j)
    (honly : ∀ i ∈ componentPositions ps, n ≤ i → i = j)
    (h : namesOf ps = before ++ [name]) (hname : name ≠ ".") :
    ∃ dots, before = namesOf (ps.take n) ++ dots ∧ ∀ x ∈ dots, x = "." := by
  have hsplit : namesOf ps = namesOf (ps.take n) ++ namesOf (ps.drop n) := by
    rw [namesOf, namesOf, namesOf, ← List.map_append, ← List.filter_append, List.take_append_drop]
  have hne : namesOf (ps.drop n) ≠ [] := by
    obtain ⟨p, hp, hc⟩ := mem_componentPositions.1 hj
    have hmem : p ∈ ps.drop n := List.mem_of_getElem? (i := j - n) (by
      rw [List.getElem?_drop, Nat.add_sub_cancel' hn]
      exact hp)
    rw [isComponent, Bool.and_eq_true] at hc
    exact List.ne_nil_of_mem (List.mem_map_of_mem (List.mem_filter.2 ⟨hmem, hc.1⟩))
  rcases List.eq_nil_or_concat (namesOf (ps.drop n)) with hnil | ⟨dots, last, hlast⟩
  · exact absurd hnil hne
  rw [hsplit, hlast, List.concat_eq_append, ← List.append_assoc] at h
  obtain ⟨rfl, hnames⟩ := List.append_inj' h rfl
  cases hnames
  refine ⟨dots, rfl, fun x hx => ?_⟩
  obtain ⟨A, B, hAB, rfl, hB⟩ := List.map_eq_append_iff.1 (hlast.trans (List.concat_eq_append ..))
  obtain ⟨q, rfl, rfl⟩ := List.map_eq_singleton_iff.1 hB
  obtain ⟨front, back, hdrop, rfl, hback⟩ := List.filter_eq_append_iff.1 hAB
  obtain ⟨p, hp, rfl⟩ := List.mem_map.1 hx
  obtain ⟨hpf, hpe⟩ := List.mem_filter.1 hp
  obtain ⟨hqb, hqe⟩ := List.mem_filter.1 (hback ▸ List.mem_singleton.2 rfl : q ∈ back.filter _)
  obtain ⟨a, ha⟩ := List.mem_iff_getElem?.1 hpf
  obtain ⟨b, hb⟩ := List.mem_iff_getElem?.1 hqb
  have halt := (List.getElem?_eq_some_iff.1 ha).1
  -- Both the name and the last one would be the only component.
  have hpos : ∀ (i : Nat) (s : List Char), (front ++ back)[i]? = some s → s.isEmpty = false →
      String.ofList s ≠ "." → n + i = j := by
    intro i s hs he hdot
    refine honly (n + i) (mem_componentPositions.2 ⟨s, ?_, ?_⟩) (Nat.le_add_right _ _)
    · rw [← List.getElem?_drop, hdrop]
      exact hs
    · rw [isComponent, he]
      have hne : s ≠ ['.'] := fun h => hdot (h ▸ rfl)
      simp [hne]
  refine Decidable.byContradiction fun hdot => ?_
  have h₁ := hpos a p ((List.getElem?_append_left halt).trans ha) (by simpa using hpe) hdot
  have h₂ := hpos (front.length + b) q ?_ (by simpa using hqe) hname
  · omega
  · rw [List.getElem?_append_right (Nat.le_add_right _ _), Nat.add_sub_cancel_left]
    exact hb

/-- The parent of a path is a part of it, and has all its names but the last one and some `.`. -/
theorem names_parent? {path d name : String} {before : List String} (hp : parent? path = some d)
    (hd : d ≠ "") (h : names path = before ++ [name]) (hname : name ≠ ".") :
    d.toList <+: path.toList ∧ ∃ dots, before = names d ++ dots ∧ ∀ x ∈ dots, x = "." := by
  have hdecreasing : (componentPositions (pieces path.toList)).reverse.Pairwise (· > ·) :=
    List.pairwise_reverse.2 (List.pairwise_lt_range.filter _)
  rw [parent?] at hp
  split at hp
  next => cases hp
  next j hj =>
    have hall : ∀ i ∈ componentPositions (pieces path.toList), i = j := fun i hi => by
      rw [← List.mem_reverse, hj] at hi
      exact List.mem_singleton.1 hi
    have hmem : j ∈ componentPositions (pieces path.toList) := by
      rw [← List.mem_reverse, hj]
      exact List.mem_singleton.2 rfl
    have hdots := names_drop hmem (Nat.zero_le j) (fun i hi _ => hall i hi) h hname
    cases hp
    split at hd
    next habs =>
      rw [if_pos habs]
      refine ⟨?_, hdots⟩
      obtain ⟨cs, hcs⟩ := List.head?_eq_some_iff.1 (of_decide_eq_true habs)
      exact ⟨cs, hcs.symm⟩
    next => exact absurd rfl hd
  next j i rest hj =>
    cases hp
    rw [hj] at hdecreasing
    obtain ⟨hji, hi⟩ := List.pairwise_cons.1 hdecreasing
    have hmem : j ∈ componentPositions (pieces path.toList) := by
      rw [← List.mem_reverse, hj]
      exact List.mem_cons_self
    have honly : ∀ a ∈ componentPositions (pieces path.toList), i + 1 ≤ a → a = j := by
      intro a ha hia
      rw [← List.mem_reverse, hj] at ha
      rcases List.mem_cons.1 ha with rfl | ha
      · rfl
      · rcases List.mem_cons.1 ha with rfl | ha
        · exact absurd hia (Nat.not_succ_le_self _)
        · exact absurd ((List.pairwise_cons.1 hi).1 a ha) (Nat.not_lt.2 (Nat.le_of_succ_le hia))
    have hnames : names (String.ofList (unpieces ((pieces path.toList).take (i + 1)))) =
        namesOf ((pieces path.toList).take (i + 1)) := by
      have hpieces : pieces path.toList ≠ [] := pieces_eq _ ▸ List.splitOn_ne_nil _ _
      rw [names, String.toList_ofList, pieces_unpieces]
      · rfl
      · exact fun p hp => slash_notMem (List.mem_of_mem_take hp)
      · exact fun hnil => hpieces ((List.take_eq_nil_iff.1 hnil).resolve_left (Nat.succ_ne_zero i))
    rw [hnames, String.toList_ofList]
    refine ⟨?_, names_drop hmem (hji i List.mem_cons_self) honly h hname⟩
    have hfront := unpieces_take_prefix (pieces path.toList) (i + 1)
    rwa [unpieces_pieces] at hfront

end Path

namespace Tree
variable {t t' : Tree} {path : String}

/-- A part of a path starts where the path does. -/
theorem origin_of_prefix {d : String} {start : Place} (ho : t.origin path = .ok start)
    (hp : d.toList <+: path.toList) (hd : d ≠ "") : t.origin d = .ok start := by
  obtain ⟨cs, hcs⟩ := hp
  have hpath : path = d ++ String.ofList cs := by
    rw [← String.toList_inj, String.toList_append, String.toList_ofList, hcs]
  have habs : Path.isAbsolute path = Path.isAbsolute d := by
    rw [Path.isAbsolute, Path.isAbsolute, ← hcs]
    cases hl : d.toList with
    | nil => exact absurd (String.toList_eq_nil_iff.1 hl) hd
    | cons => rfl
  rw [origin] at ho ⊢
  split at ho
  next => cases ho
  next hnul =>
    split at ho
    next => cases ho
    next hlen =>
      split at ho
      next => cases ho
      next =>
        rw [String.contains_char_eq, decide_eq_true_eq, ← hcs, List.mem_append] at hnul
        rw [hpath, String.utf8ByteSize_append] at hlen
        rw [String.contains_char_eq, if_neg, if_neg, if_neg, ← habs]
        · exact ho
        · rwa [String.isEmpty_iff]
        · omega
        · rw [decide_eq_true_eq]
          exact fun h => hnul (Or.inl h)

/-- Names that stay lead nowhere else. -/
theorem foldlM_dots {dots : List String} {p q : Place} (hdots : ∀ x ∈ dots, x = ".")
    (h : dots.foldlM t.step p = .ok q) : p = q := by
  induction dots generalizing p with
  | nil =>
      cases h
      rfl
  | cons x dots ih =>
      rw [List.foldlM_cons] at h
      obtain ⟨r, hr, h⟩ := Except.bind_ok.1 h
      obtain ⟨-, rfl, -⟩ := step_ok.1 hr
      rw [Path.move, if_pos (hdots x List.mem_cons_self)] at h
      exact ih (fun y hy => hdots y (List.mem_cons_of_mem x hy)) h

/-- A directory that is there cannot be made. -/
theorem makeDirectory_of_resolve {q : Place} (h : t.resolve path = .ok q)
    (hq : t.find? q = some .directory) :
    t.makeDirectory path = .error (.system .alreadyExists) := by
  obtain ⟨start, ho, hs, -⟩ := resolve_ok.1 h
  rcases List.eq_nil_or_concat (Path.names path) with hn | ⟨before, last, hn⟩
  · rw [makeDirectory, resolveParent, ho, hn]
    rfl
  · rw [List.concat_eq_append] at hn
    rw [hn, List.foldlM_append] at hs
    obtain ⟨r, hr, hs⟩ := Except.bind_ok.1 hs
    rw [List.foldlM_cons] at hs
    obtain ⟨_, hstep, hs⟩ := Except.bind_ok.1 hs
    cases hs
    obtain ⟨hd, rfl, hname⟩ := step_ok.1 hstep
    by_cases hspecial : last = "." ∨ last = ".."
    · have hparent : t.resolveParent path = .ok (r, .special) := by
        rw [resolveParent, ho, hn, List.reverse_concat]
        refine lift_ok.2 (Except.bind_ok.2 ⟨r, ?_, Except.bind_ok.2 ⟨(), needDirectory_ok.2 hd, ?_⟩⟩)
        · rwa [List.reverse_reverse]
        · rw [if_pos (by simpa using hspecial)]
      rw [makeDirectory, hparent]
      rfl
    · obtain ⟨h₁, h₂⟩ := not_or.1 hspecial
      obtain ⟨hlen, hsome⟩ := hname h₁ h₂
      rw [Path.move_name h₁ h₂] at hsome
      have hparent := resolveParent_ok.2 ⟨start, before, ho, hn, hr, hd, h₁, h₂, rfl⟩
      rw [makeDirectory, hparent]
      refine (congrArg lift ?_).trans (rfl : lift (α := Tree) (.error .alreadyExists) = _)
      simp only [if_neg (Nat.not_lt.2 hlen), if_pos hsome]

/-- If the directory above a path is there, nothing has to be made. -/
theorem makeParents_of_resolveParent {q : Place} {name : String} {slash : Bool}
    (h : t.resolveParent path = .ok (q, .name name slash)) : t.makeParents path = (t, .ok ()) := by
  obtain ⟨start, before, ho, hn, hs, hq, hname, -, -⟩ := resolveParent_ok.1 h
  rw [makeParents]
  split
  next d hp =>
    by_cases hd : d = ""
    · rw [hd]
      rfl
    · obtain ⟨hfront, dots, rfl, hdots⟩ := Path.names_parent? hp hd hn hname
      rw [List.foldlM_append] at hs
      obtain ⟨q', hs', hstay⟩ := Except.bind_ok.1 hs
      obtain rfl := foldlM_dots hdots hstay
      have hresolve : t.resolve d = .ok q' :=
        resolve_ok.2 ⟨start, origin_of_prefix ho hfront hd, hs', fun _ => hq⟩
      have hdir : t.isDirectory d = true := by
        rw [isDirectory, hresolve]
        exact decide_eq_true hq
      have hmake := makeDirectory_of_resolve hresolve hq
      rw [makeDirectories, if_neg (by rwa [String.isEmpty_iff])]
      cases Path.ancestors d.length d with
      | nil => rw [makeDirectoriesFrom, retryDirectory, hmake, hdir]; rfl
      | cons => rw [makeDirectoriesFrom, hmake, hdir]; rfl
  next => rfl

/-- The directory above a path is there, and nothing in the way of a file. -/
structure Ready (t : Tree) (path : String) : Prop where
  parent : ∃ q name, t.resolveParent path = .ok (q, .name name false) ∧
    name.utf8ByteSize ≤ maxName
  noDirectory : t.find? (t.place path) ≠ some .directory

/-- A file can be opened to append to it. -/
def Opens (t : Tree) (path : String) : Prop := ∃ t' id, t.openAppend path = (t', .ok id)

theorem Ready.opens (h : t.Ready path) : t.Opens path := by
  obtain ⟨q, name, hr, hlen⟩ := h.parent
  have hd := h.noDirectory
  rw [place_of_resolveParent hr] at hd
  obtain ⟨t', id, ho⟩ := openFile_of_resolveParent hr hlen hd
  refine ⟨t', id, ?_⟩
  rw [openAppend_eq, makeParents_of_resolveParent hr]
  simp only [ho]

/-- It stays so, unless a directory comes in the way. -/
theorem Ready.keeps {touched : Place → Prop} (h : t.Ready path) (hk : Keeps touched t t')
    (hd : t'.find? (t'.place path) ≠ some .directory) : t'.Ready path where
  parent := by
    obtain ⟨q, name, hr, hlen⟩ := h.parent
    exact ⟨q, name, hk.resolveParent hr, hlen⟩
  noDirectory := hd

/-- After a file was opened it can be opened again. -/
theorem ready_openAppend {id : Nat} (h : t.openAppend path = (t', .ok id)) : t'.Ready path := by
  obtain ⟨b, -, hf, -⟩ := read_openAppend h
  rw [openAppend_eq] at h
  split at h
  next => cases h
  next t₁ _ =>
    split at h
    next ho =>
      cases h
      obtain ⟨q, name, hr, -, hlen, -⟩ := openFile_ok ho
      refine ⟨⟨q, name, (adds_openFile ho).keeps.resolveParent hr, hlen⟩, ?_⟩
      rw [hf]
      exact nofun
    next => cases h

end Tree
end Vigil
