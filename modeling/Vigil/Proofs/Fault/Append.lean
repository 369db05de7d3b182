import Mathlib.Data.List.Infix
import Vigil.Proofs.Fault.Split

/-!
# Fault — appending to a log

A log is searched for separators from left to right, and a search goes on behind the separator that
was found last (`found`).  No end of a separator is the beginning of one, so none is overlooked that
way, and none lies across the seam between what the log holds and a text that begins with one.

* `search_eq_offsets`: what the search finds are the places at which `cut` cuts.
* `split_eq_between`: the blocks of a log are what lies between the places found.

**Appending to a log** (`split_append`): the blocks of what is appended come behind the blocks of
the log, whatever it holds.
-/

namespace Vigil.Fault.Report
open Text
variable {s block : List Char} {place skip : Nat}

/-! ### Searching for separators -/

/-- The places of separators in a text that begins at `place`, of which the first `skip` characters
belong to a separator that was found before. -/
def search (place skip : Nat) : List Char → List Nat
  | [] => []
  | c :: rest =>
    if skip = 0 ∧ separator <+: c :: rest then
      place :: search (place + 1) (separator.length - 1) rest
    else search (place + 1) (skip - 1) rest

/-- The places of separators in a text, when each search goes on behind the separator found last. -/
def found (s : List Char) : List Nat := search 0 0 s

/-- The texts from each place to the next one, and from the last to the end. -/
def between (s : List Char) : List Nat → List (List Char)
  | [] => []
  | [a] => [s.drop a]
  | a :: b :: rest => (s.drop a).take (b - a) :: between s (b :: rest)

/-- The places at which pieces begin, the first of them at `place`. -/
def offsets (place : Nat) : List (List Char) → List Nat
  | [] => []
  | p :: rest => place :: offsets (place + p.length) rest

/-- Characters in which no separator begins make no difference to a search. -/
theorem search_skip (h : ∀ j < skip, ¬ separator <+: s.drop j) :
    search place skip s = search place 0 s := by
  induction s generalizing place skip with
  | nil => rfl
  | cons c rest ih =>
      cases skip with
      | zero => rfl
      | succ skip =>
          have hno : ¬ separator <+: c :: rest := h 0 (Nat.succ_pos skip)
          have hrest : ∀ j < skip, ¬ separator <+: rest.drop j := fun j hj =>
            h (j + 1) (Nat.succ_lt_succ hj)
          rw [search, if_neg (fun hs => hno hs.2), search, if_neg (fun hs => hno hs.2)]
          exact ih hrest

/-- No separator begins within another one. -/
theorem not_prefix_drop {c : Char} (h : separator <+: c :: s) :
    ∀ j < separator.length - 1, ¬ separator <+: s.drop j := by
  intro j hj hp
  have hlt : j + 1 < separator.length := Nat.add_lt_of_lt_sub hj
  -- The end of the one would be a beginning of the other.
  have hend : separator.drop (j + 1) <+: s.drop j :=
    List.IsPrefix.drop h (j + 1)
  have hlength : (separator.drop (j + 1)).length ≤ separator.length := by
    rw [List.length_drop]
    exact Nat.sub_le ..
  exact (separator_piece.2.1 (j + 1) hlt (Nat.succ_pos j)).1
    (List.prefix_of_prefix_length_le hend hp hlength)

theorem search_cons (place : Nat) (c : Char) (s : List Char) :
    search place 0 (c :: s) =
      if separator <+: c :: s then place :: search (place + 1) 0 s
      else search (place + 1) 0 s := by
  rw [search]
  simp only [true_and]
  split
  next h => rw [search_skip (not_prefix_drop h)]
  next => rfl

/-- What is found are the places at which a text is cut. -/
theorem search_eq_offsets (place : Nat) (s : List Char) :
    search place 0 s = offsets (place + (cut s).1.length) (cut s).2 := by
  induction s generalizing place with
  | nil => rfl
  | cons c s ih =>
      have hnext : place + 1 + (cut s).1.length = place + (c :: (cut s).1).length := by
        rw [List.length_cons]
        omega
      rw [search_cons, cut_cons, ih, hnext]
      simp only [List.isPrefixOf_iff_prefix]
      split
      next => rfl
      next => rfl

theorem found_eq_offsets (s : List Char) : found s = offsets (cut s).1.length (cut s).2 := by
  rw [found, search_eq_offsets, Nat.zero_add]

/-! ### What lies between the places -/

theorem between_offsets (front : List Char) (pieces : List (List Char)) :
    between (front ++ pieces.flatten) (offsets front.length pieces) = pieces := by
  induction pieces generalizing front with
  | nil => rfl
  | cons p pieces ih =>
      have hrest := ih (front ++ p)
      rw [List.append_assoc, ← List.flatten_cons, List.length_append] at hrest
      cases pieces with
      | nil =>
          rw [offsets, offsets, between, List.drop_left, List.flatten_singleton]
      | cons q pieces =>
          rw [offsets] at hrest
          rw [offsets, offsets, between, hrest, List.drop_left, Nat.add_sub_cancel_left,
            List.flatten_cons, List.take_left]

theorem split_eq_between (s : List Char) : split s = (between s (found s)).map trimEnd := by
  have hbetween := between_offsets (cut s).1 (cut s).2
  rw [flatten_cut] at hbetween
  rw [found_eq_offsets, hbetween, split]

/-! ### Appending -/

theorem offsets_append (place : Nat) (ps qs : List (List Char)) :
    offsets place (ps ++ qs) = offsets place ps ++ offsets (place + ps.flatten.length) qs := by
  induction ps generalizing place with
  | nil => rfl
  | cons p ps ih =>
      rw [List.cons_append, offsets, offsets, ih, List.flatten_cons, List.length_append,
        Nat.add_assoc]
      rfl

theorem offsets_add (n place : Nat) (ps : List (List Char)) :
    offsets (n + place) ps = (offsets place ps).map (n + ·) := by
  induction ps generalizing place with
  | nil => rfl
  | cons p ps ih => rw [offsets, offsets, Nat.add_assoc, ih, List.map_cons]

/-- Nothing comes before the first separator of a text that begins with it. -/
theorem front_of_opens (h : separator <+: block) : (cut block).1 = [] := by
  cases block with
  | nil => rfl
  | cons c s => rw [cut_cons, if_pos (List.isPrefixOf_iff_prefix.2 h)]

/-- A text that begins with a separator is cut apart from what it is appended to. -/
theorem cut_append_of_opens (log : List Char) (h : separator <+: block) :
    cut (log ++ block) = ((cut log).1, (cut log).2 ++ (cut block).2) := by
  obtain ⟨rest, rfl⟩ := h
  have hapart : Apart log (separator ++ rest) := separator_piece.2.1.apart log rest
  exact (cut_append hapart).2 (front_of_opens (List.prefix_append separator rest))

/-- **Appending to a log.**  The blocks of a text are what lies between the separators that are
found in it, without the blanks at their ends; where none is found there are no blocks.  A log may
hold anything, also a block that was torn or cut.  If a text is appended to it that begins with a
separator, as every report does (`separator_prefix_block`), then the separators of the log are found
where they were, those of the text where they are in it, the first of them at its beginning; so the
blocks of the text come behind the blocks of the log. -/
theorem split_append (log : List Char) (h : separator <+: block) :
    (∀ s, split s = (between s (found s)).map trimEnd ∧ (¬ separator <:+: s → split s = [])) ∧
      found (log ++ block) = found log ++ (found block).map (log.length + ·) ∧
      (found block).head? = some 0 ∧
      split (log ++ block) = split log ++ split block := by
  have hcut := cut_append_of_opens log h
  refine ⟨fun s => ⟨split_eq_between s, fun hno => ?_⟩, ?_, ?_, ?_⟩
  · have hnone : (cut s).2 = [] := List.length_eq_zero_iff.1 (marks_eq_zero_iff.2 hno)
    rw [split, hnone, List.map_nil]
  · have hlength : (cut log).1.length + (cut log).2.flatten.length = log.length := by
      rw [← List.length_append, flatten_cut]
    rw [found_eq_offsets, hcut, offsets_append, hlength, found_eq_offsets log,
      found_eq_offsets block, front_of_opens h]
    exact congrArg _ (offsets_add log.length 0 _)
  · have hsome : marks block ≠ 0 := fun hzero => marks_eq_zero_iff.1 hzero h.isInfix
    rw [found_eq_offsets, front_of_opens h]
    cases hpieces : (cut block).2 with
    | nil => exact absurd (congrArg List.length hpieces) hsome
    | cons p ps => rfl
  · rw [split, hcut, List.map_append]
    rfl

/-- A report is appended to a log that was cut within the first line of a report. -/
theorem split_append_torn :
    let o : Occasion := ⟨⟨0, 0, by decide⟩, .panic "boom" none none none, some [], 0⟩
    let log := o.block ++ List.replicate 7 '='
    separator <+: o.block ∧ split (log ++ o.block) = split log ++ split o.block ∧
      found (log ++ o.block) = [0, log.length] := by
  intro o log
  have hopens := separator_prefix_block o
  have hlog : found log = [0] := by decide +kernel
  have hblock : found o.block = [0] := by decide +kernel
  obtain ⟨-, hfound, -, hsplit⟩ := split_append log hopens
  refine ⟨hopens, hsplit, ?_⟩
  rw [hfound, hlog, hblock]
  rfl

end Vigil.Fault.Report
