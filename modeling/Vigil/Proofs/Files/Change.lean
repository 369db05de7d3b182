import Vigil.Proofs.Files.Place

/-!
# Files — what a change keeps

An operation on a tree changes what is at a few places and nothing else, and no directory goes
away (`Tree.Keeps`).  A path that leads somewhere still leads there after such a change, unless it
ends at one of those places (`Keeps.resolve`).

* `WellFormed.put`, `WellFormed.erase`, `WellFormed.appendTo`: the changes that keep a tree well
  formed.
* `keeps_put`, `keeps_erase`, `keeps_appendTo`: what else they keep.
-/

namespace Vigil.Tree

/-! ### Well-formed trees -/

/-- Everything is in a directory, and each file has an identity of its own. -/
structure WellFormed (t : Tree) : Prop where
  inDirectory : ∀ p name e, t.find? (p ++ [name]) = some e → t.find? p = some .directory
  id_lt : ∀ p id b, t.find? p = some (.file id b) → id < t.nextId
  id_unique : ∀ p q id b c, t.find? p = some (.file id b) → t.find? q = some (.file id c) → p = q

namespace WellFormed
variable {t : Tree}

/-- What is above something is a directory. -/
theorem find?_dropLast (wf : t.WellFormed) {p : Place} {e : Entry} (h : t.find? p = some e) :
    t.find? p.dropLast = some .directory := by
  rcases List.eq_nil_or_concat p with rfl | ⟨q, name, rfl⟩
  · rfl
  · rw [List.concat_eq_append] at h ⊢
    rw [List.dropLast_concat]
    exact wf.inDirectory q name e h

end WellFormed

theorem lookup_directories (ps : List Place) (p : Place) :
    (ps.map fun q => (q, Entry.directory)).lookup p = if p ∈ ps then some .directory else none := by
  induction ps with
  | nil => rfl
  | cons q ps ih =>
      rw [List.map_cons, List.lookup_cons, ih]
      by_cases h : p = q
      · simp [h]
      · rw [beq_eq_false_iff_ne.2 h]
        simp [h]

/-- A new tree has the working directory and those above it. -/
theorem find?_new (wd p : Place) :
    (Tree.new wd).find? p = if p <+: wd then some .directory else none := by
  by_cases hp : p = []
  · subst hp
    simp [find?]
  · have hmem : p ∈ (List.range wd.length).reverse.map (fun i => wd.take (i + 1)) ↔ p <+: wd := by
      simp only [List.mem_map, List.mem_reverse, List.mem_range]
      constructor
      · rintro ⟨i, -, rfl⟩
        exact List.take_prefix _ _
      · intro h
        have hpos := List.length_pos_iff.2 hp
        refine ⟨p.length - 1, by have := h.length_le; omega, ?_⟩
        rw [Nat.sub_add_cancel hpos]
        exact (List.prefix_iff_eq_take.1 h).symm
    have hentries : (Tree.new wd).entries =
        ((List.range wd.length).reverse.map fun i => wd.take (i + 1)).map
          fun q => (q, Entry.directory) := by
      simp [Tree.new]
    rw [find?, if_neg (by simpa using hp), hentries, lookup_directories]
    simp only [hmem]

theorem wellFormed_new (wd : Place) : (Tree.new wd).WellFormed := by
  have hfile : ∀ p id b, (Tree.new wd).find? p ≠ some (.file id b) := by
    intro p id b h
    rw [find?_new] at h
    split at h <;> cases h
  refine ⟨fun p name e h => ?_, fun p id b h => ?_, fun p _ id b _ h => ?_⟩
  · rw [find?_new] at h ⊢
    split at h
    next hpre => rw [if_pos ((List.prefix_append p [name]).trans hpre)]
    next => cases h
  · exact absurd h (hfile p id b)
  · exact absurd h (hfile p id b)

/-! ### What a change keeps -/

/-- The tree stays well formed, directories stay, and so does what is at other places than those of
`touched`. -/
structure Keeps (touched : Place → Prop) (t t' : Tree) : Prop where
  wellFormed : t.WellFormed → t'.WellFormed
  workingDirectory : t'.workingDirectory = t.workingDirectory
  directories : ∀ p, t.find? p = some .directory → t'.find? p = some .directory
  elsewhere : ∀ p, ¬ touched p → t'.find? p = t.find? p

namespace Keeps
variable {touched more : Place → Prop} {t t₁ t' : Tree}

theorem refl (t : Tree) : Keeps touched t t := ⟨id, rfl, fun _ h => h, fun _ _ => rfl⟩

theorem trans (h₁ : Keeps touched t t₁) (h₂ : Keeps touched t₁ t') : Keeps touched t t' where
  wellFormed wf := h₂.wellFormed (h₁.wellFormed wf)
  workingDirectory := h₂.workingDirectory.trans h₁.workingDirectory
  directories p h := h₂.directories p (h₁.directories p h)
  elsewhere p h := (h₂.elsewhere p h).trans (h₁.elsewhere p h)

theorem mono (h : Keeps touched t t') (hm : ∀ p, touched p → more p) : Keeps more t t' where
  wellFormed := h.wellFormed
  workingDirectory := h.workingDirectory
  directories := h.directories
  elsewhere p hp := h.elsewhere p fun ht => hp (hm p ht)

theorem origin (h : Keeps touched t t') (path : String) : t'.origin path = t.origin path := by
  rw [Tree.origin, Tree.origin, h.workingDirectory]

theorem place (h : Keeps touched t t') (path : String) : t'.place path = t.place path := by
  rw [Tree.place, Tree.place, h.workingDirectory]

/-- Names that are followed are followed as before, if something is still at their end. -/
theorem foldlM_step (h : Keeps touched t t') {names : List String} {start p : Place}
    (hp : (t.find? p).isSome → (t'.find? p).isSome) (hs : names.foldlM t.step start = .ok p) :
    names.foldlM t'.step start = .ok p := by
  induction names generalizing start with
  | nil => exact hs
  | cons name names ih =>
      rw [List.foldlM_cons] at hs ⊢
      obtain ⟨q, hq, hs⟩ := Except.bind_ok.1 hs
      refine Except.bind_ok.2 ⟨q, ?_, ih hs⟩
      obtain ⟨hd, hm, hn⟩ := step_ok.1 hq
      refine step_ok.2 ⟨h.directories _ hd, hm, fun h₁ h₂ => ⟨(hn h₁ h₂).1, ?_⟩⟩
      -- Either this is the end, or the next name is looked for in a directory here.
      cases names with
      | nil =>
          cases hs
          exact hp (hn h₁ h₂).2
      | cons next _ =>
          rw [List.foldlM_cons] at hs
          obtain ⟨r, hr, -⟩ := Except.bind_ok.1 hs
          rw [h.directories q (step_ok.1 hr).1]
          rfl

/-- A path leads where it led, unless what was there is touched. -/
theorem resolve (h : Keeps touched t t') {path : String} {p : Place}
    (hp : t.resolve path = .ok p) (hn : ¬ touched p) : t'.resolve path = .ok p := by
  obtain ⟨start, ho, hs, hd⟩ := resolve_ok.1 hp
  refine resolve_ok.2 ⟨start, (h.origin path).trans ho, h.foldlM_step ?_ hs, fun hslash => ?_⟩
  · rw [h.elsewhere p hn]
    exact fun he => he
  · exact h.directories p (hd hslash)

theorem resolveParent (h : Keeps touched t t') {path : String} {p : Place} {name : String}
    {slash : Bool} (hp : t.resolveParent path = .ok (p, .name name slash)) :
    t'.resolveParent path = .ok (p, .name name slash) := by
  obtain ⟨start, before, ho, hn, hs, hd, hrest⟩ := resolveParent_ok.1 hp
  have hd' := h.directories p hd
  refine resolveParent_ok.2
    ⟨start, before, (h.origin path).trans ho, hn, h.foldlM_step ?_ hs, hd', hrest⟩
  intro _
  rw [hd']
  rfl

end Keeps

/-! ### Single changes -/

variable {t : Tree}

/-- Something is put into a directory: a new file with an identity of its own, other contents of a
file, or a directory where nothing was. -/
theorem WellFormed.put (wf : t.WellFormed) {q : Place} {name : String} {e : Entry} {n : Nat}
    (hq : t.find? q = some .directory) (hn : t.nextId ≤ n)
    (hd : t.find? (q ++ [name]) = some .directory → e = .directory)
    (he : ∀ id b, e = .file id b →
      id < n ∧ ∀ r c, t.find? r = some (.file id c) → r = q ++ [name]) :
    ({ t.put (q ++ [name]) e with nextId := n } : Tree).WellFormed := by
  have hfind : ∀ r, ({ t.put (q ++ [name]) e with nextId := n } : Tree).find? r =
      if r = q ++ [name] then some e else t.find? r := t.find?_put (by simp) e
  refine ⟨fun r m f hf => ?_, fun r id b hf => ?_, fun r s id b c hr hs => ?_⟩
  · rw [hfind] at hf ⊢
    have hrd : t.find? r = some .directory := by
      split at hf
      next h => rw [(List.append_inj' h rfl).1]; exact hq
      next => exact wf.inDirectory r m f hf
    split
    next h => rw [hd (h ▸ hrd)]
    next => exact hrd
  · rw [hfind] at hf
    split at hf
    next => exact (he id b (Option.some.inj hf)).1
    next => exact Nat.lt_of_lt_of_le (wf.id_lt r id b hf) hn
  · rw [hfind] at hr hs
    split at hr
    next h₁ =>
      split at hs
      next h₂ => exact h₁.trans h₂.symm
      next => exact h₁.trans ((he id b (Option.some.inj hr)).2 s c hs).symm
    next =>
      split at hs
      next h₂ => exact ((he id c (Option.some.inj hs)).2 r b hr).trans h₂.symm
      next => exact wf.id_unique r s id b c hr hs

/-- Where it is put is all that is touched. -/
theorem keeps_put {q : Place} {name : String} {e : Entry} {n : Nat}
    (hq : t.find? q = some .directory) (hn : t.nextId ≤ n)
    (hd : t.find? (q ++ [name]) = some .directory → e = .directory)
    (he : t.WellFormed → ∀ id b, e = .file id b →
      id < n ∧ ∀ r c, t.find? r = some (.file id c) → r = q ++ [name]) :
    Keeps (· = q ++ [name]) t { t.put (q ++ [name]) e with nextId := n } := by
  have hfind : ∀ r, ({ t.put (q ++ [name]) e with nextId := n } : Tree).find? r =
      if r = q ++ [name] then some e else t.find? r := t.find?_put (by simp) e
  refine ⟨fun wf => wf.put hq hn hd (he wf), rfl, fun r hr => ?_, fun r hr => ?_⟩
  · rw [hfind]
    split
    next h => rw [hd (h ▸ hr)]
    next => exact hr
  · exact (hfind r).trans (if_neg hr)

/-- A file is taken away. -/
theorem WellFormed.erase (wf : t.WellFormed) {p : Place} {id : Nat} {b : Bytes} (hp : p ≠ [])
    (hf : t.find? p = some (.file id b)) : (t.erase p).WellFormed := by
  have hfind := t.find?_erase hp
  have hsome : ∀ r e, (t.erase p).find? r = some e → t.find? r = some e := fun r e hr => by
    rw [hfind] at hr
    split at hr
    next => cases hr
    next => exact hr
  refine ⟨fun r m f hf' => ?_, fun r id b hr => wf.id_lt r id b (hsome r _ hr),
    fun r s id b c hr hs => wf.id_unique r s id b c (hsome r _ hr) (hsome s _ hs)⟩
  have hrd := wf.inDirectory r m f (hsome _ f hf')
  rw [hfind]
  split
  next h =>
    rw [h, hf] at hrd
    cases hrd
  next => exact hrd

theorem keeps_erase {p : Place} {id : Nat} {b : Bytes} (hp : p ≠ [])
    (hf : t.find? p = some (.file id b)) : Keeps (· = p) t (t.erase p) := by
  refine ⟨fun wf => wf.erase hp hf, rfl, fun r hr => ?_, fun r hr =>
    (t.find?_erase hp r).trans (if_neg hr)⟩
  rw [t.find?_erase hp]
  split
  next h =>
    rw [h, hf] at hr
    cases hr
  next => exact hr

theorem WellFormed.appendTo (wf : t.WellFormed) (id : Nat) (bytes : Bytes) :
    (t.appendTo id bytes).WellFormed := by
  have hfile : ∀ r i b, (t.appendTo id bytes).find? r = some (.file i b) →
      ∃ c, t.find? r = some (.file i c) := fun r i b hr => by
    rw [find?_appendTo] at hr
    obtain ⟨e, he, hb⟩ := Option.map_eq_some_iff.1 hr
    cases e with
    | directory => cases hb
    | file j c => cases hb; exact ⟨c, he⟩
  refine ⟨fun r m f hf => ?_, fun r i b hr => ?_, fun r s i b c hr hs => ?_⟩
  · rw [find?_appendTo] at hf ⊢
    obtain ⟨e, he, -⟩ := Option.map_eq_some_iff.1 hf
    rw [wf.inDirectory r m e he]
    rfl
  · obtain ⟨c, hc⟩ := hfile r i b hr
    exact wf.id_lt r i c hc
  · obtain ⟨b', hb⟩ := hfile r i b hr
    obtain ⟨c', hc⟩ := hfile s i c hs
    exact wf.id_unique r s i b' c' hb hc

theorem keeps_appendTo (t : Tree) (id : Nat) (bytes : Bytes) :
    Keeps (fun p => ∃ b, t.find? p = some (.file id b)) t (t.appendTo id bytes) := by
  refine ⟨fun wf => wf.appendTo id bytes, rfl, fun r hr => ?_, fun r hr => ?_⟩
  · rw [find?_appendTo, hr]
    rfl
  · rw [find?_appendTo]
    cases he : t.find? r with
    | none => rfl
    | some e =>
        cases e with
        | directory => rfl
        | file i b =>
            have hne : i ≠ id := fun h => hr ⟨b, h ▸ he⟩
            rw [Option.map_some, Entry.appended, if_neg hne]

end Vigil.Tree
