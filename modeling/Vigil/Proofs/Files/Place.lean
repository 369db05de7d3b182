import Vigil.Files.Tree

/-!
# Files — where a path leads

A path leads to one place, whatever the tree is like (`Path.place`): there are no links, so `.`
and `..` are taken by name.  The tree only decides whether one gets there.

* `resolve_ok`, `resolveParent_ok`: when a path is followed to its end, or to its last name.
* `place_of_resolve`, `place_of_resolveParent`: it is then the place of the path.
-/

namespace Vigil

theorem Except.bind_ok {ε α β : Type} {x : Except ε α} {f : α → Except ε β} {b : β} :
    x >>= f = .ok b ↔ ∃ a, x = .ok a ∧ f a = .ok b := by
  cases x with
  | error e => exact ⟨fun h => (nomatch h), fun ⟨_, h, _⟩ => (nomatch h)⟩
  | ok a =>
      refine ⟨fun h => ⟨a, rfl, h⟩, ?_⟩
      rintro ⟨a', h, hf⟩
      cases h
      exact hf

namespace Path

/-- Where a name leads from a place. -/
def move (p : Place) (name : String) : Place :=
  if name = "." then p else if name = ".." then p.dropLast else p ++ [name]

/-- Where a path starts. -/
def start (workingDirectory : Place) (path : String) : Place :=
  if isAbsolute path then [] else workingDirectory

/-- Where a path leads. -/
def place (workingDirectory : Place) (path : String) : Place :=
  (names path).foldl move (start workingDirectory path)

theorem eq_slash_of_pieces {s : List Char} (h : ∀ p ∈ pieces s, p = []) : ∀ c ∈ s, c = '/' := by
  induction s with
  | nil => exact fun c hc => (nomatch hc)
  | cons d s ih =>
      rw [pieces] at h
      split at h
      next hd =>
        intro c hc
        rcases List.mem_cons.1 hc with hc | hc
        · exact hc.trans hd
        · exact ih (fun p hp => h p (List.mem_cons_of_mem _ hp)) c hc
      next =>
        split at h
        next => exact absurd (h _ List.mem_cons_self) (by simp)
        next => exact absurd (h _ List.mem_cons_self) (by simp)

/-- A path without names consists of slashes. -/
theorem endsInSlash_of_names {path : String} (hn : names path = []) (he : path.isEmpty = false) :
    endsInSlash path = true := by
  have hall : ∀ p ∈ pieces path.toList, p = [] := by
    simpa [names] using hn
  have hne : path.toList ≠ [] := by
    intro h
    rw [String.toList_eq_nil_iff.1 h] at he
    cases he
  rw [endsInSlash, List.getLast?_eq_some_getLast hne,
    eq_slash_of_pieces hall _ (List.getLast_mem hne)]
  exact decide_eq_true rfl

theorem move_name {p : Place} {name : String} (h₁ : name ≠ ".") (h₂ : name ≠ "..") :
    move p name = p ++ [name] := by
  rw [move, if_neg h₁, if_neg h₂]

end Path

namespace Tree

/-- Where a path leads. -/
def place (t : Tree) (path : String) : Place := Path.place t.workingDirectory path

theorem lift_ok {α : Type} {x : Except OsError α} {a : α} : lift x = .ok a ↔ x = .ok a := by
  cases x <;> simp [lift]

theorem needDirectory_ok {t : Tree} {p : Place} :
    t.needDirectory p = .ok () ↔ t.find? p = some .directory := by
  rw [needDirectory]
  cases h : t.find? p with
  | none => simp
  | some e => cases e <;> simp

theorem step_ok {t : Tree} {p q : Place} {name : String} :
    t.step p name = .ok q ↔ t.find? p = some .directory ∧ q = Path.move p name ∧
      (name ≠ "." → name ≠ ".." → name.utf8ByteSize ≤ maxName ∧ (t.find? q).isSome) := by
  rw [step, Except.bind_ok]
  constructor
  · rintro ⟨⟨⟩, hd, h⟩
    refine ⟨needDirectory_ok.1 hd, ?_⟩
    rw [Path.move]
    split at h
    next h₁ => cases h; exact ⟨(if_pos h₁).symm, fun hn => absurd h₁ hn⟩
    next h₁ =>
      rw [if_neg h₁]
      split at h
      next h₂ => cases h; exact ⟨(if_pos h₂).symm, fun _ hn => absurd h₂ hn⟩
      next h₂ =>
        rw [if_neg h₂]
        split at h
        next => cases h
        next h₃ =>
          split at h
          next h₄ => cases h; exact ⟨rfl, fun _ _ => ⟨Nat.not_lt.1 h₃, h₄⟩⟩
          next => cases h
  · rintro ⟨hd, rfl, h⟩
    refine ⟨(), needDirectory_ok.2 hd, ?_⟩
    rw [Path.move] at h ⊢
    by_cases h₁ : name = "."
    · rw [if_pos h₁, if_pos h₁]
    · rw [if_neg h₁] at h ⊢
      rw [if_neg h₁]
      by_cases h₂ : name = ".."
      · rw [if_pos h₂, if_pos h₂]
      · rw [if_neg h₂] at h ⊢
        obtain ⟨h₃, h₄⟩ := h h₁ h₂
        rw [if_neg h₂, if_neg (Nat.not_lt.2 h₃), if_pos h₄]

theorem origin_ok {t : Tree} {path : String} {p : Place} (h : t.origin path = .ok p) :
    p = Path.start t.workingDirectory path := by
  rw [origin] at h
  split at h
  next => cases h
  next =>
    split at h
    next => cases h
    next =>
      split at h
      next => cases h
      next => cases h; rfl

theorem isEmpty_of_origin {t : Tree} {path : String} {p : Place} (h : t.origin path = .ok p) :
    path.isEmpty = false := by
  rw [origin] at h
  split at h
  next => cases h
  next =>
    split at h
    next => cases h
    next =>
      split at h
      next => cases h
      next he => exact Bool.eq_false_iff.2 he

theorem resolve_ok {t : Tree} {path : String} {p : Place} :
    t.resolve path = .ok p ↔ ∃ start, t.origin path = .ok start ∧
      (Path.names path).foldlM t.step start = .ok p ∧
      (Path.endsInSlash path = true → t.find? p = some .directory) := by
  rw [resolve, Except.bind_ok]
  refine exists_congr fun start => and_congr_right fun _ => ?_
  rw [lift_ok, Except.bind_ok]
  by_cases hs : Path.endsInSlash path = true
  · simp only [hs, if_true, Except.bind_ok, true_implies]
    constructor
    · rintro ⟨q, hq, ⟨⟩, hd, h⟩
      cases h
      exact ⟨hq, needDirectory_ok.1 hd⟩
    · rintro ⟨hq, hd⟩
      exact ⟨p, hq, (), needDirectory_ok.2 hd, rfl⟩
  · simp only [if_neg hs]
    constructor
    · rintro ⟨q, hq, h⟩
      cases h
      exact ⟨hq, fun h => absurd h hs⟩
    · rintro ⟨hq, -⟩
      exact ⟨p, hq, rfl⟩

theorem resolveParent_ok {t : Tree} {path : String} {p : Place} {name : String} {slash : Bool} :
    t.resolveParent path = .ok (p, .name name slash) ↔
      ∃ start before, t.origin path = .ok start ∧ Path.names path = before ++ [name] ∧
        before.foldlM t.step start = .ok p ∧ t.find? p = some .directory ∧
        name ≠ "." ∧ name ≠ ".." ∧ slash = Path.endsInSlash path := by
  rw [resolveParent, Except.bind_ok]
  refine exists_congr fun start => ?_
  rw [lift_ok]
  constructor
  · rintro ⟨ho, h⟩
    split at h
    next => cases h
    next last before hr =>
      obtain ⟨q, hq, h⟩ := Except.bind_ok.1 h
      obtain ⟨⟨⟩, hd, h⟩ := Except.bind_ok.1 h
      split at h
      next => cases h
      next hn =>
        cases h
        simp only [Bool.or_eq_true, decide_eq_true_eq, not_or] at hn
        refine ⟨before.reverse, ho, ?_, hq, needDirectory_ok.1 hd, hn.1, hn.2, rfl⟩
        rw [← List.reverse_reverse (Path.names path), hr, List.reverse_cons]
  · rintro ⟨before, ho, hn, hq, hd, h₁, h₂, rfl⟩
    refine ⟨ho, ?_⟩
    rw [hn, List.reverse_append]
    simp only [List.reverse_singleton, List.singleton_append, List.reverse_reverse]
    refine Except.bind_ok.2 ⟨p, hq, Except.bind_ok.2 ⟨(), needDirectory_ok.2 hd, ?_⟩⟩
    simp [h₁, h₂]

/-- Names that are followed lead where they say. -/
theorem foldlM_step {t : Tree} {names : List String} {start p : Place}
    (h : names.foldlM t.step start = .ok p) : p = names.foldl Path.move start := by
  induction names generalizing start with
  | nil => cases h; rfl
  | cons name names ih =>
      rw [List.foldlM_cons] at h
      obtain ⟨q, hq, h⟩ := Except.bind_ok.1 h
      obtain ⟨-, rfl, -⟩ := step_ok.1 hq
      exact ih h

theorem place_of_resolve {t : Tree} {path : String} {p : Place} (h : t.resolve path = .ok p) :
    p = t.place path := by
  obtain ⟨start, ho, hp, -⟩ := resolve_ok.1 h
  rw [foldlM_step hp, origin_ok ho]
  rfl

theorem place_of_resolveParent {t : Tree} {path : String} {p : Place} {name : String}
    {slash : Bool} (h : t.resolveParent path = .ok (p, .name name slash)) :
    t.place path = p ++ [name] := by
  obtain ⟨start, before, ho, hn, hp, -, h₁, h₂, -⟩ := resolveParent_ok.1 h
  rw [place, Path.place, hn, List.foldl_append, foldlM_step hp, origin_ok ho]
  exact Path.move_name h₁ h₂

/-- A name that a directory does not have is not found there. -/
theorem read_of_missing {t : Tree} {path name : String} {p : Place} (ho : t.origin path = .ok p)
    (hp : t.find? p = some .directory) (hn : Path.names path = [name]) (h₁ : name ≠ ".")
    (h₂ : name ≠ "..") (hlen : name.utf8ByteSize ≤ maxName) (h : t.find? (p ++ [name]) = none) :
    t.read path = .error (.system .notFound) := by
  have hstep : t.step p name = .error .notFound := by
    rw [step, needDirectory_ok.2 hp]
    change (if _ then _ else _) = _
    rw [if_neg h₁, if_neg h₂, if_neg (Nat.not_lt.2 hlen), h]
    rfl
  rw [read, resolve, ho]
  change (lift _ >>= _) = _
  rw [hn, List.foldlM_cons, hstep]
  rfl

end Tree
end Vigil
