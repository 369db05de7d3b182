import Mathlib.Data.List.DropRight
import Vigil.Text.Blank
import Vigil.Text.Lines

/-!
# Text — what stands in a line

A text without line feeds, and without blanks at its ends, can be written on a line and is found
there again, blanks around it or not (`Inline`).

* `lines_append_feed`: a line is split off at its line feed.
* `lines_eq_iff`: the lines of a text are those that it is broken into (`Broken`).
* `Inline.trim`, `inline_trim`: trimming leaves such a text alone, and makes one of what stands in
  a line.
-/

namespace Vigil.Text

/-! ### Lines -/

theorem not_mem_lines (s : List Char) : ∀ l ∈ lines s, '\n' ∉ l := by
  induction s with
  | nil => exact fun _ h => (nomatch h)
  | cons c rest ih =>
      rw [lines.eq_def]
      dsimp only
      split
      next => exact List.forall_mem_cons.2 ⟨List.not_mem_nil, ih⟩
      next hc =>
        have hcons : ∀ {l : List Char}, '\n' ∉ l → '\n' ∉ c :: l := fun hl h =>
          (List.mem_cons.1 h).elim (Ne.symm hc) hl
        split
        next hls =>
          rw [hls, List.forall_mem_cons] at ih
          refine List.forall_mem_cons.2 ⟨?_, ih.2⟩
          split
          · exact ih.1
          · exact hcons ih.1
        next => exact List.forall_mem_singleton.2 (hcons List.not_mem_nil)
        next hls =>
          rw [hls, List.forall_mem_cons] at ih
          exact List.forall_mem_cons.2 ⟨hcons ih.1, ih.2⟩

/-- A character before another one of its line is put before what the line has of it. -/
theorem lines_cons_of_ne {c d : Char} (hc : c ≠ '\n') (hd : d ≠ '\n') (s : List Char) :
    lines (c :: d :: s) = match lines (d :: s) with
      | [] => [[c]]
      | l :: ls => (c :: l) :: ls := by
  rw [lines.eq_def]
  simp only [hc, if_false]
  split
  next heq _ => exact absurd (List.cons.inj heq).1 hd
  next heq => rw [heq]
  next heq _ => rw [heq]

/-- A line is split off as it is, if no carriage return stands before its line feed. -/
theorem lines_append_feed {l : List Char} (hfeed : '\n' ∉ l) (hlast : l.getLast? ≠ some '\r')
    (rest : List Char) : lines (l ++ '\n' :: rest) = l :: lines rest := by
  induction l with
  | nil => rfl
  | cons c l ih =>
      obtain ⟨hc, hl⟩ := List.ne_and_not_mem_of_not_mem_cons hfeed
      cases l with
      | nil =>
          have hne : c ≠ '\r' := fun h => hlast (congrArg some h)
          rw [List.cons_append, List.nil_append, lines.eq_def]
          simp only [hc.symm, hne, if_false, lines, if_true]
      | cons d l =>
          have hd := (List.ne_and_not_mem_of_not_mem_cons hl).1
          rw [List.getLast?_cons_cons] at hlast
          have htail := ih hl hlast
          rw [List.cons_append] at htail
          rw [List.cons_append, List.cons_append, lines_cons_of_ne hc.symm hd.symm, htail]

/-- A line is split off without the carriage return before its line feed. -/
theorem lines_append_return {l : List Char} (hfeed : '\n' ∉ l) (rest : List Char) :
    lines (l ++ '\r' :: '\n' :: rest) = l :: lines rest := by
  induction l with
  | nil => rfl
  | cons c l ih =>
      obtain ⟨hc, hl⟩ := List.ne_and_not_mem_of_not_mem_cons hfeed
      cases l with
      | nil =>
          have htail := ih hl
          rw [List.nil_append] at htail
          rw [List.cons_append, List.nil_append, lines_cons_of_ne hc.symm (by decide), htail]
      | cons d l =>
          have hd := (List.ne_and_not_mem_of_not_mem_cons hl).1
          have htail := ih hl
          rw [List.cons_append] at htail
          rw [List.cons_append, List.cons_append, lines_cons_of_ne hc.symm hd.symm, htail]

/-- A text without line feeds is one line. -/
theorem lines_of_not_mem {l : List Char} (hne : l ≠ []) (hfeed : '\n' ∉ l) : lines l = [l] := by
  induction l with
  | nil => exact absurd rfl hne
  | cons c l ih =>
      obtain ⟨hc, hl⟩ := List.ne_and_not_mem_of_not_mem_cons hfeed
      cases l with
      | nil =>
          rw [lines.eq_def]
          simp only [hc.symm, if_false, lines]
      | cons d l =>
          have hd := (List.ne_and_not_mem_of_not_mem_cons hl).1
          rw [lines_cons_of_ne hc.symm hd.symm, ih (List.cons_ne_nil d l) hl]

/-- A text is broken into lines: each ends at a line feed, to which a carriage return right before
it belongs, and only the last one may do without. -/
inductive Broken : List Char → List (List Char) → Prop
  | done : Broken [] []
  | unended {l : List Char} (hne : l ≠ []) (hfeed : '\n' ∉ l) : Broken l [l]
  | feed {l s : List Char} {ls : List (List Char)} (hfeed : '\n' ∉ l)
      (hlast : l.getLast? ≠ some '\r') (rest : Broken s ls) : Broken (l ++ '\n' :: s) (l :: ls)
  | returned {l s : List Char} {ls : List (List Char)} (hfeed : '\n' ∉ l) (rest : Broken s ls) :
      Broken (l ++ '\r' :: '\n' :: s) (l :: ls)

/-- The lines of a text are those that it is broken into. -/
theorem lines_eq_iff {s : List Char} {ls : List (List Char)} : lines s = ls ↔ Broken s ls := by
  constructor
  · rintro rfl
    -- Each step takes a line off, so the induction is on what is left of the text.
    induction hlen : s.length using Nat.strongRecOn generalizing s with
    | ind n ih =>
      subst hlen
      by_cases hmem : '\n' ∈ s
      · obtain ⟨l, rest, rfl, hfeed⟩ := List.eq_append_cons_of_mem hmem
        have hrest : Broken rest (lines rest) :=
          ih _ (by rw [List.length_append, List.length_cons]; omega) rfl
        by_cases hlast : l.getLast? = some '\r'
        · obtain ⟨front, rfl⟩ := List.getLast?_eq_some_iff.1 hlast
          have hfront : '\n' ∉ front := fun h => hfeed (List.mem_append_left _ h)
          rw [List.append_assoc, List.singleton_append, lines_append_return hfront]
          exact .returned hfront hrest
        · rw [lines_append_feed hfeed hlast]
          exact .feed hfeed hlast hrest
      · cases s with
        | nil => exact .done
        | cons c s =>
            rw [lines_of_not_mem (List.cons_ne_nil c s) hmem]
            exact .unended (List.cons_ne_nil c s) hmem
  · intro h
    induction h with
    | done => rfl
    | unended hne hfeed => exact lines_of_not_mem hne hfeed
    | feed hfeed hlast _ ih => rw [lines_append_feed hfeed hlast, ih]
    | returned hfeed _ ih => rw [lines_append_return hfeed, ih]

/-- A text is split at a separator that is not before it. -/
theorem splitOnce?_append {sep : Char} {before : List Char} (h : sep ∉ before) (after : List Char) :
    splitOnce? sep (before ++ sep :: after) = some (before, after) := by
  induction before with
  | nil => exact if_pos rfl
  | cons c before ih =>
      obtain ⟨hc, hbefore⟩ := List.ne_and_not_mem_of_not_mem_cons h
      rw [List.cons_append, splitOnce?, if_neg hc.symm, ih hbefore]
      rfl

/-- What a text was split into. -/
theorem eq_of_splitOnce? {sep : Char} {s before after : List Char}
    (h : splitOnce? sep s = some (before, after)) : s = before ++ sep :: after := by
  induction s generalizing before with
  | nil => cases h
  | cons c rest ih =>
      rw [splitOnce?] at h
      split at h
      next hc =>
        cases h
        rw [hc, List.nil_append]
      next =>
        obtain ⟨⟨front, _⟩, hrest, heq⟩ := Option.map_eq_some_iff.1 h
        cases heq
        rw [ih hrest, List.cons_append]

/-- No separator is before the one at which a text was split. -/
theorem not_mem_of_splitOnce? {sep : Char} {s before after : List Char}
    (h : splitOnce? sep s = some (before, after)) : sep ∉ before := by
  induction s generalizing before with
  | nil => cases h
  | cons c rest ih =>
      rw [splitOnce?] at h
      split at h
      next =>
        cases h
        exact List.not_mem_nil
      next hc =>
        obtain ⟨⟨front, _⟩, hrest, heq⟩ := Option.map_eq_some_iff.1 h
        cases heq
        exact List.not_mem_cons_of_ne_of_not_mem (Ne.symm hc) (ih hrest)

/-! ### Blanks at the ends -/

theorem trimEnd_concat (s : List Char) (c : Char) :
    trimEnd (s ++ [c]) = if isBlank c then trimEnd s else s ++ [c] := by
  induction s with
  | nil => rfl
  | cons d s ih =>
      rw [List.cons_append, trimEnd, ih]
      by_cases hc : isBlank c = true
      · rw [if_pos hc, if_pos hc, trimEnd]
      · rw [if_neg hc, if_neg hc]
        cases s <;> rfl

theorem trimEnd_eq (s : List Char) : trimEnd s = s.rdropWhile isBlank := by
  induction s using List.reverseRecOn with
  | nil => rfl
  | append_singleton s c ih => rw [trimEnd_concat, List.rdropWhile_concat, ih]

theorem trim_sublist (s : List Char) : (trim s).Sublist s := by
  rw [trim, trimEnd_eq]
  exact (List.rdropWhile_prefix _ _).sublist.trans (List.dropWhile_sublist _)

/-- A text that stands in a line as it is: no line feed is in it, and no blank at its ends. -/
structure Inline (s : List Char) : Prop where
  feed : '\n' ∉ s
  head : ∀ c ∈ s.head?, isBlank c = false
  last : ∀ c ∈ s.getLast?, isBlank c = false

namespace Inline

/-- A text without blanks. -/
theorem of_forall {s : List Char} (h : ∀ c ∈ s, isBlank c = false) : Inline s where
  feed hmem := absurd (h _ hmem) (by decide)
  head c hc := h c (List.mem_of_mem_head? hc)
  last c hc := h c (List.mem_of_getLast? hc)

instance (s : List Char) : Decidable (Inline s) :=
  decidable_of_iff
    (s.contains '\n' = false ∧ s.head?.any isBlank = false ∧ s.getLast?.any isBlank = false) <| by
    have hfeed : s.contains '\n' = false ↔ '\n' ∉ s := by
      rw [Bool.eq_false_iff, ne_eq, List.contains_iff_mem]
    simp only [hfeed, Option.any_eq_false]
    exact ⟨fun ⟨feed, head, last⟩ => ⟨feed, head, last⟩,
      fun ⟨feed, head, last⟩ => ⟨feed, head, last⟩⟩

variable {s : List Char} (h : Inline s)
include h

/-- Trimming leaves it alone. -/
theorem trim : Text.trim s = s := by
  have hstart : trimStart s = s := List.dropWhile_eq_self_iff.2 fun hpos hblank => by
    have := h.head _ (List.head?_eq_getElem? ▸ List.getElem?_eq_getElem hpos)
    rw [hblank] at this
    cases this
  rw [Text.trim, hstart, trimEnd_eq, List.rdropWhile_eq_self_iff]
  intro hne hblank
  have := h.last _ (List.getLast?_eq_some_getLast hne)
  rw [hblank] at this
  cases this

/-- Trimming drops a space before it. -/
theorem trim_space : Text.trim (' ' :: s) = s := by
  have hstart : trimStart (' ' :: s) = trimStart s := List.dropWhile_cons_of_pos (by decide)
  rw [Text.trim, hstart]
  exact h.trim

end Inline

/-- What is left of a text without line feeds stands in a line as it is. -/
theorem inline_trim {s : List Char} (h : '\n' ∉ s) : Inline (trim s) where
  feed hmem := h ((trim_sublist s).subset hmem)
  head c hc := by
    obtain ⟨blanks, hblanks⟩ := List.rdropWhile_prefix isBlank (trimStart s)
    have hhead : c ∈ (trimStart s).head? := by
      rw [← hblanks, List.head?_append, ← trimEnd_eq]
      exact congrArg (Option.or · _) hc
    have hnot := List.head?_dropWhile_not isBlank s
    rw [show (s.dropWhile isBlank).head? = some c from hhead] at hnot
    exact hnot
  last c hc := by
    rw [trim, trimEnd_eq] at hc
    obtain ⟨hne, rfl⟩ := List.mem_getLast?_eq_getLast hc
    exact Bool.eq_false_iff.2 (List.rdropWhile_last_not isBlank _ hne)

end Vigil.Text
