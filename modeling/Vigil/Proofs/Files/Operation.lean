import Vigil.Proofs.Files.Change

/-!
# Files — what the operations do

When an operation on a tree succeeds, and what it then changes; whether it succeeds or not, the tree
stays well formed, and only the places are touched that the operation was asked about.

* `read_write`: what was written is read.
* `remove_of_read`, `find?_remove`: a file that can be read can be deleted, and then it is gone.
* `adds_openAppend`, `read_openAppend`: opening a file to append to it puts that file and the
  directories above where nothing was, and changes nothing else.
-/

namespace Vigil

namespace Path

/-- A path, and the directories above it. -/
inductive Above (path : String) : String → Prop where
  | self : Above path path
  | parent {d p : String} (h : Above path d) (hp : parent? d = some p) : Above path p

theorem Above.trans {path d e : String} (h : Above path d) (h' : Above d e) : Above path e := by
  induction h' with
  | self => exact h
  | parent _ hp ih => exact ih.parent hp

theorem above_of_mem_ancestors {fuel : Nat} {path d : String} (h : d ∈ ancestors fuel path) :
    Above path d := by
  induction fuel generalizing path with
  | zero => exact (nomatch h)
  | succ fuel ih =>
      rw [ancestors] at h
      split at h
      next => exact (nomatch h)
      next p hp =>
        have hpar : Above path p := .parent .self hp
        rcases List.mem_cons.1 h with rfl | h
        · exact hpar
        · exact hpar.trans (ih h)

end Path

namespace Tree
variable {t t' : Tree} {path : String}

/-! ### Operations that succeed -/

theorem openFile_ok {p : Place} {id : Nat} (h : t.openFile path = .ok (t', p, id)) :
    ∃ q name, t.resolveParent path = .ok (q, .name name false) ∧ p = q ++ [name] ∧
      name.utf8ByteSize ≤ maxName ∧
      ((t' = t ∧ ∃ b, t.find? p = some (.file id b)) ∨
        (t' = { t.put p (.file id []) with nextId := t.nextId + 1 } ∧ id = t.nextId ∧
          t.find? p = none)) := by
  obtain ⟨⟨q, last⟩, hr, h⟩ := Except.bind_ok.1 h
  replace h := lift_ok.1 h
  cases last with
  | special => cases h
  | name name slash =>
      simp only at h
      split at h
      next => cases h
      next hslash =>
        rw [Bool.not_eq_true] at hslash
        subst hslash
        split at h
        next => cases h
        next hlen =>
          refine ⟨q, name, hr, ?_⟩
          split at h
          next => cases h
          next hf => cases h; exact ⟨rfl, Nat.not_lt.1 hlen, Or.inl ⟨rfl, _, hf⟩⟩
          next hf => cases h; exact ⟨rfl, Nat.not_lt.1 hlen, Or.inr ⟨rfl, rfl, hf⟩⟩

theorem write_ok {bytes : Bytes} (h : t.write path bytes = .ok t') :
    ∃ t₁ p id, t.openFile path = .ok (t₁, p, id) ∧ t' = t₁.put p (.file id bytes) := by
  obtain ⟨⟨t₁, p, id⟩, ho, h⟩ := Except.bind_ok.1 h
  cases h
  exact ⟨t₁, p, id, ho, rfl⟩

theorem remove_ok (h : t.remove path = .ok t') :
    ∃ q name id b, t.resolveParent path = .ok (q, .name name false) ∧
      t.find? (q ++ [name]) = some (.file id b) ∧ t' = t.erase (q ++ [name]) := by
  obtain ⟨⟨q, last⟩, hr, h⟩ := Except.bind_ok.1 h
  replace h := lift_ok.1 h
  cases last with
  | special => cases h
  | name name slash =>
      simp only at h
      split at h
      next => cases h
      next =>
        split at h
        next => cases h
        next => cases h
        next hf =>
          split at h
          next => cases h
          next hslash =>
            cases h
            rw [Bool.not_eq_true] at hslash
            subst hslash
            exact ⟨q, name, _, _, hr, hf, rfl⟩

theorem makeDirectory_ok (h : t.makeDirectory path = .ok t') :
    ∃ q name slash, t.resolveParent path = .ok (q, .name name slash) ∧
      t.find? (q ++ [name]) = none ∧ t' = t.put (q ++ [name]) .directory := by
  obtain ⟨⟨q, last⟩, hr, h⟩ := Except.bind_ok.1 h
  replace h := lift_ok.1 h
  cases last with
  | special => cases h
  | name name slash =>
      simp only at h
      split at h
      next => cases h
      next =>
        split at h
        next => cases h
        next hf =>
          cases h
          exact ⟨q, name, slash, hr, Option.not_isSome_iff_eq_none.1 hf, rfl⟩

/-- The last name of a path is looked for in a directory. -/
theorem directory_of_resolveParent {q : Place} {name : String} {slash : Bool}
    (h : t.resolveParent path = .ok (q, .name name slash)) : t.find? q = some .directory := by
  obtain ⟨_, _, _, _, _, hd, _⟩ := resolveParent_ok.1 h
  exact hd

/-! ### Only adding -/

/-- What is new is in places of `touched` where nothing was, and new files are empty. -/
structure Adds (touched : Place → Prop) (t t' : Tree) : Prop where
  changes : Keeps (fun p => touched p ∧ t.find? p = none) t t'
  empty : ∀ p id b, t'.find? p = some (.file id b) → t.find? p = some (.file id b) ∨ b = []

section
variable {touched more : Place → Prop}

/-- A directory, or an empty file, is put where nothing was. -/
theorem adds_put {q : Place} {name : String} {e : Entry} {n : Nat}
    (h : Keeps (· = q ++ [name]) t { t.put (q ++ [name]) e with nextId := n })
    (hf : t.find? (q ++ [name]) = none) (he : ∀ id b, e = .file id b → b = []) :
    Adds (· = q ++ [name]) t { t.put (q ++ [name]) e with nextId := n } := by
  refine ⟨h.mono fun p hp => ⟨hp, hp ▸ hf⟩, fun p id b hb => ?_⟩
  have hfind := (t.find?_put (p := q ++ [name]) (by simp) e p).symm.trans hb
  split at hfind
  next => exact Or.inr (he id b (Option.some.inj hfind))
  next => exact Or.inl hfind

namespace Adds

theorem keeps (h : Adds touched t t') : Keeps touched t t' := h.changes.mono fun _ hp => hp.1

theorem refl (t : Tree) : Adds touched t t := ⟨.refl t, fun _ _ _ h => Or.inl h⟩

theorem trans {t₁ : Tree} (h₁ : Adds touched t t₁) (h₂ : Adds touched t₁ t') :
    Adds touched t t' where
  changes := h₁.changes.trans (h₂.changes.mono fun p hp => ⟨hp.1, Decidable.byContradiction
    fun hne => hne ((h₁.changes.elsewhere p fun ht => hne ht.2).symm.trans hp.2)⟩)
  empty p id b h := (h₂.empty p id b h).elim (h₁.empty p id b) Or.inr

theorem mono (h : Adds touched t t') (hm : ∀ p, touched p → more p) : Adds more t t' :=
  ⟨h.changes.mono fun p hp => ⟨hm p hp.1, hp.2⟩, h.empty⟩

theorem place (h : Adds touched t t') (path : String) : t'.place path = t.place path :=
  h.keeps.place path

/-- What is there stays. -/
theorem find? (h : Adds touched t t') {p : Place} {e : Entry} (hp : t.find? p = some e) :
    t'.find? p = some e :=
  (h.changes.elsewhere p fun ht => nomatch ht.2.symm.trans hp).trans hp

end Adds
end

/-! ### Opening, writing and deleting a file -/

theorem adds_openFile {p : Place} {id : Nat} (h : t.openFile path = .ok (t', p, id)) :
    Adds (· = p) t t' := by
  obtain ⟨q, name, hr, rfl, -, ⟨rfl, -⟩ | ⟨rfl, rfl, hf⟩⟩ := openFile_ok h
  · exact .refl t'
  · refine adds_put (keeps_put (directory_of_resolveParent hr) (Nat.le_succ _) (fun hd => ?_)
      fun wf i b hi => ?_) hf fun i b hi => ?_
    · rw [hf] at hd
      cases hd
    · cases hi
      refine ⟨Nat.lt_succ_self _, fun r c hc => ?_⟩
      exact absurd (wf.id_lt r _ c hc) (Nat.lt_irrefl _)
    · cases hi
      rfl

/-- A file can be opened under a name in a directory, unless a directory has that name. -/
theorem openFile_of_resolveParent {q : Place} {name : String}
    (hr : t.resolveParent path = .ok (q, .name name false)) (hlen : name.utf8ByteSize ≤ maxName)
    (hd : t.find? (q ++ [name]) ≠ some .directory) :
    ∃ t' id, t.openFile path = .ok (t', q ++ [name], id) := by
  cases hf : t.find? (q ++ [name]) with
  | none =>
      refine ⟨{ t.put (q ++ [name]) (.file t.nextId []) with nextId := t.nextId + 1 }, t.nextId,
        Except.bind_ok.2 ⟨_, hr, lift_ok.2 ?_⟩⟩
      simp only [Bool.false_eq_true, if_false, if_neg (Nat.not_lt.2 hlen), hf]
  | some e =>
      cases e with
      | directory => exact absurd hf hd
      | file id b =>
          refine ⟨t, id, Except.bind_ok.2 ⟨_, hr, lift_ok.2 ?_⟩⟩
          simp only [Bool.false_eq_true, if_false, if_neg (Nat.not_lt.2 hlen), hf]

/-- The file that was opened is there. -/
theorem find?_openFile {p : Place} {id : Nat} (h : t.openFile path = .ok (t', p, id)) :
    ∃ b, t'.find? p = some (.file id b) := by
  obtain ⟨q, name, -, rfl, -, ⟨rfl, hf⟩ | ⟨rfl, rfl, -⟩⟩ := openFile_ok h
  · exact hf
  · exact ⟨[], (t.find?_put (by simp) _ _).trans (if_pos rfl)⟩

theorem place_openFile {p : Place} {id : Nat} (h : t.openFile path = .ok (t', p, id)) :
    p = t.place path := by
  obtain ⟨q, name, hr, rfl, -⟩ := openFile_ok h
  exact (place_of_resolveParent hr).symm

theorem keeps_write {bytes : Bytes} (h : t.write path bytes = .ok t') :
    Keeps (· = t.place path) t t' := by
  obtain ⟨t₁, p, id, ho, rfl⟩ := write_ok h
  have hk := (adds_openFile ho).keeps
  have hplace := place_openFile ho
  obtain ⟨b, hf⟩ := find?_openFile ho
  obtain ⟨q, name, hr, rfl, -⟩ := openFile_ok ho
  rw [← hplace]
  refine hk.trans (keeps_put (hk.directories q (directory_of_resolveParent hr)) (Nat.le_refl _)
    (fun hd => ?_) fun wf i c hi => ?_)
  · rw [hf] at hd
    cases hd
  · cases hi
    exact ⟨wf.id_lt _ _ b hf, fun r c hc => wf.id_unique r _ _ c b hc hf⟩

/-- A path to a name that is there leads to it. -/
theorem resolve_of_resolveParent {q : Place} {name : String}
    (h : t.resolveParent path = .ok (q, .name name false)) (hlen : name.utf8ByteSize ≤ maxName)
    (he : (t.find? (q ++ [name])).isSome) : t.resolve path = .ok (q ++ [name]) := by
  obtain ⟨start, before, ho, hn, hs, hd, h₁, h₂, hslash⟩ := resolveParent_ok.1 h
  refine resolve_ok.2 ⟨start, ho, ?_, fun hsl => ?_⟩
  · have hm := Path.move_name (p := q) h₁ h₂
    rw [hn, List.foldlM_append]
    refine Except.bind_ok.2 ⟨q, hs, Except.bind_ok.2 ⟨q ++ [name], ?_, rfl⟩⟩
    exact step_ok.2 ⟨hd, hm.symm, fun _ _ => ⟨hlen, he⟩⟩
  · rw [← hslash] at hsl
    cases hsl

/-- What was written is read. -/
theorem read_write {bytes : Bytes} (h : t.write path bytes = .ok t') :
    t'.read path = .ok bytes := by
  have hk := keeps_write h
  obtain ⟨t₁, p, id, ho, rfl⟩ := write_ok h
  obtain ⟨q, name, hr, rfl, hlen, -⟩ := openFile_ok ho
  have hf : (t₁.put (q ++ [name]) (.file id bytes)).find? (q ++ [name]) =
      some (.file id bytes) := (t₁.find?_put (by simp) _ _).trans (if_pos rfl)
  have hres := resolve_of_resolveParent (hk.resolveParent hr) hlen (by rw [hf]; rfl)
  rw [read, hres]
  exact Except.bind_ok.2 ⟨_, rfl, by rw [hf]⟩

/-- A file that a path leads to is under a name in a directory. -/
theorem resolveParent_of_file (wf : t.WellFormed) {p : Place} {id : Nat} {b : Bytes}
    (h : t.resolve path = .ok p) (hf : t.find? p = some (.file id b)) :
    ∃ q name, t.resolveParent path = .ok (q, .name name false) ∧ p = q ++ [name] ∧
      name.utf8ByteSize ≤ maxName := by
  obtain ⟨start, ho, hs, hd⟩ := resolve_ok.1 h
  have hfile : ¬ t.find? p = some .directory := by
    rw [hf]
    exact fun hd => (nomatch hd)
  have hslash : Path.endsInSlash path = false := Bool.eq_false_iff.2 fun hsl => hfile (hd hsl)
  rcases List.eq_nil_or_concat (Path.names path) with hn | ⟨before, name, hn⟩
  · rw [Path.endsInSlash_of_names hn (isEmpty_of_origin ho)] at hslash
    cases hslash
  · rw [List.concat_eq_append] at hn
    rw [hn, List.foldlM_append] at hs
    obtain ⟨q, hq, hs⟩ := Except.bind_ok.1 hs
    obtain ⟨q', hstep, hs⟩ := Except.bind_ok.1 hs
    cases hs
    obtain ⟨hqd, rfl, hname⟩ := step_ok.1 hstep
    -- Neither of the special names leads to a file.
    have h₁ : name ≠ "." := fun h => hfile (by rw [Path.move, if_pos h]; exact hqd)
    have h₂ : name ≠ ".." := fun h => hfile (by
      rw [Path.move, if_neg h₁, if_pos h]
      exact wf.find?_dropLast hqd)
    exact ⟨q, name, resolveParent_ok.2 ⟨start, before, ho, hn, hq, hqd, h₁, h₂, hslash.symm⟩,
      Path.move_name h₁ h₂, (hname h₁ h₂).1⟩

theorem read_ok {b : Bytes} :
    t.read path = .ok b ↔ ∃ p id, t.resolve path = .ok p ∧ t.find? p = some (.file id b) := by
  rw [read, Except.bind_ok]
  refine exists_congr fun p => ?_
  cases t.find? p with
  | none => simp
  | some e => cases e <;> simp

/-- A file is still read as before, unless the place of the path is touched. -/
theorem Keeps.read {touched : Place → Prop} (hk : Keeps touched t t') {b : Bytes}
    (h : t.read path = .ok b) (hn : ¬ touched (t.place path)) : t'.read path = .ok b := by
  obtain ⟨p, id, hp, hf⟩ := read_ok.1 h
  rw [← place_of_resolve hp] at hn
  exact read_ok.2 ⟨p, id, hk.resolve hp hn, (hk.elsewhere p hn).trans hf⟩

/-- Deleting a file that can be read succeeds. -/
theorem remove_of_read (wf : t.WellFormed) {b : Bytes} (h : t.read path = .ok b) :
    ∃ t', t.remove path = .ok t' := by
  obtain ⟨p, id, hp, hf⟩ := read_ok.1 h
  obtain ⟨q, name, hr, rfl, hlen⟩ := resolveParent_of_file wf hp hf
  refine ⟨t.erase (q ++ [name]), ?_⟩
  rw [remove, hr]
  refine Except.bind_ok.2 ⟨_, rfl, lift_ok.2 ?_⟩
  simp [Nat.not_lt.2 hlen, hf]

theorem keeps_remove (h : t.remove path = .ok t') : Keeps (· = t.place path) t t' := by
  obtain ⟨q, name, id, b, hr, hf, rfl⟩ := remove_ok h
  rw [place_of_resolveParent hr]
  exact keeps_erase (by simp) hf

/-- What was deleted is gone. -/
theorem find?_remove (h : t.remove path = .ok t') : t'.find? (t'.place path) = none := by
  rw [(keeps_remove h).place]
  obtain ⟨q, name, id, b, hr, hf, rfl⟩ := remove_ok h
  rw [place_of_resolveParent hr]
  exact (t.find?_erase (by simp) _).trans (if_pos rfl)

/-! ### Making directories -/

theorem adds_makeDirectory (h : t.makeDirectory path = .ok t') :
    Adds (· = t.place path) t t' := by
  obtain ⟨q, name, slash, hr, hf, rfl⟩ := makeDirectory_ok h
  rw [place_of_resolveParent hr]
  exact adds_put (keeps_put (directory_of_resolveParent hr) (Nat.le_refl _) (fun _ => rfl) nofun)
    hf nofun

theorem adds_retryDirectory (t : Tree) (path : String) :
    Adds (· = t.place path) t (t.retryDirectory path).1 := by
  rw [retryDirectory]
  split
  next h => exact adds_makeDirectory h
  next => exact .refl t

/-- Directories are made only where they are asked for. -/
theorem adds_makeDirectoriesFrom (t : Tree) (path : String) (parents : List String) :
    Adds (fun p => ∃ d ∈ path :: parents, p = t.place d) t
      (t.makeDirectoriesFrom path parents).1 := by
  induction parents generalizing path with
  | nil =>
      exact (adds_retryDirectory t path).mono fun p hp => ⟨path, List.mem_cons_self, hp⟩
  | cons parent rest ih =>
      have hself : ∀ p, p = t.place path → ∃ d ∈ path :: parent :: rest, p = t.place d :=
        fun p hp => ⟨path, List.mem_cons_self, hp⟩
      have hrest := (ih parent).mono fun p ⟨d, hd, hp⟩ =>
        (⟨d, List.mem_cons_of_mem path hd, hp⟩ : ∃ d ∈ path :: parent :: rest, p = t.place d)
      rw [makeDirectoriesFrom]
      split
      next h => exact (adds_makeDirectory h).mono hself
      next =>
        split
        next => exact .refl t
        next =>
          split
          next => exact .refl t
          next =>
            split
            next h => rw [h] at hrest; exact hrest
            next t₁ h =>
              rw [h] at hrest
              refine hrest.trans ((adds_retryDirectory t₁ path).mono fun p hp => hself p ?_)
              exact hp.trans (hrest.place path)

/-- The places of a path and of the directories above it. -/
def OnTheWay (t : Tree) (path : String) (p : Place) : Prop :=
  ∃ d, Path.Above path d ∧ p = t.place d

theorem adds_makeDirectories (t : Tree) (path : String) :
    Adds (t.OnTheWay path) t (t.makeDirectories path).1 := by
  rw [makeDirectories]
  split
  next => exact .refl t
  next =>
    refine (t.adds_makeDirectoriesFrom path _).mono fun p ⟨d, hd, hp⟩ => ⟨d, ?_, hp⟩
    rcases List.mem_cons.1 hd with rfl | hd
    · exact .self
    · exact Path.above_of_mem_ancestors hd

/-- Makes the directories above a path. -/
def makeParents (t : Tree) (path : String) : Tree × Except FileFailure Unit :=
  match Path.parent? path with
  | some parent => t.makeDirectories parent
  | none => (t, .ok ())

theorem adds_makeParents (t : Tree) (path : String) :
    Adds (t.OnTheWay path) t (t.makeParents path).1 := by
  rw [makeParents]
  split
  next parent hp =>
    exact (t.adds_makeDirectories parent).mono fun p ⟨d, hd, hpd⟩ =>
      ⟨d, .trans (.parent .self hp) hd, hpd⟩
  next => exact .refl t

/-! ### Appending -/

theorem onTheWay_self (t : Tree) (path : String) : t.OnTheWay path (t.place path) :=
  ⟨path, .self, rfl⟩

theorem openAppend_eq (t : Tree) (path : String) :
    t.openAppend path = match t.makeParents path with
      | (t₁, .error e) => (t₁, .error e)
      | (t₁, .ok ()) => match t₁.openFile path with
        | .ok (t', _, id) => (t', .ok id)
        | .error e => (t₁, .error e) := by
  rw [openAppend, makeParents]
  cases Path.parent? path with
  | none => rfl
  | some parent =>
      simp only
      cases t.makeDirectories parent with
      | mk t₁ made => cases made <;> rfl

/-- Opening a file to append to it makes that file and the directories above it, if they are
missing. -/
theorem adds_openAppend (t : Tree) (path : String) :
    Adds (t.OnTheWay path) t (t.openAppend path).1 := by
  have ha := t.adds_makeParents path
  rw [openAppend_eq]
  split
  next t₁ e hm => rw [hm] at ha; exact ha
  next t₁ hm =>
    rw [hm] at ha
    split
    next ho =>
      refine ha.trans ((adds_openFile ho).mono fun p hp => ?_)
      rw [hp, place_openFile ho, ha.place]
      exact t.onTheWay_self path
    next => exact ha

/-- A file that was opened to append to it can be read: it is as it was, or new and empty. -/
theorem read_openAppend {id : Nat} (h : t.openAppend path = (t', .ok id)) :
    ∃ b, t'.read path = .ok b ∧ t'.find? (t'.place path) = some (.file id b) ∧
      (t.find? (t.place path) = some (.file id b) ∨ t.find? (t.place path) = none ∧ b = []) := by
  have ha := t.adds_openAppend path
  rw [h] at ha
  rw [openAppend_eq] at h
  split at h
  next => cases h
  next t₁ _ =>
    split at h
    next ho =>
      cases h
      have hopen := adds_openFile ho
      have hplace : t'.place path = _ := (hopen.place path).trans (place_openFile ho).symm
      obtain ⟨b, hf⟩ := find?_openFile ho
      obtain ⟨q, name, hr, rfl, hlen, -⟩ := openFile_ok ho
      have hres := resolve_of_resolveParent (hopen.keeps.resolveParent hr) hlen (by rw [hf]; rfl)
      refine ⟨b, read_ok.2 ⟨_, id, hres, hf⟩, hplace ▸ hf, ?_⟩
      rw [← ha.place, hplace]
      cases he : t.find? (q ++ [name]) with
      | none =>
          rcases ha.empty _ id b hf with hold | rfl
          · exact nomatch he.symm.trans hold
          · exact Or.inr ⟨rfl, rfl⟩
      | some e => exact Or.inl ((ha.find? he).symm.trans hf)
    next => cases h

/-! ### What is there -/

/-- A path that leads somewhere leads to something. -/
theorem WellFormed.isSome_of_resolve (wf : t.WellFormed) {p : Place} (h : t.resolve path = .ok p) :
    (t.find? p).isSome := by
  obtain ⟨start, ho, hs, hd⟩ := resolve_ok.1 h
  rcases List.eq_nil_or_concat (Path.names path) with hn | ⟨before, name, hn⟩
  · rw [hd (Path.endsInSlash_of_names hn (isEmpty_of_origin ho))]
    rfl
  · rw [hn, List.concat_eq_append, List.foldlM_append] at hs
    obtain ⟨q, -, hs⟩ := Except.bind_ok.1 hs
    obtain ⟨q', hstep, hs⟩ := Except.bind_ok.1 hs
    cases hs
    obtain ⟨hqd, rfl, hname⟩ := step_ok.1 hstep
    by_cases h₁ : name = "."
    · rw [Path.move, if_pos h₁, hqd]
      rfl
    · by_cases h₂ : name = ".."
      · rw [Path.move, if_neg h₁, if_pos h₂, wf.find?_dropLast hqd]
        rfl
      · exact (hname h₁ h₂).2

theorem WellFormed.pathExists_eq_false (wf : t.WellFormed) (h : t.find? (t.place path) = none) :
    t.pathExists path = false := by
  rw [pathExists]
  cases hr : t.resolve path with
  | error e => rfl
  | ok p =>
      have hs := wf.isSome_of_resolve hr
      rw [place_of_resolve hr, h] at hs
      cases hs

theorem pathExists_of_read {b : Bytes} (h : t.read path = .ok b) : t.pathExists path = true := by
  obtain ⟨p, id, hp, -⟩ := read_ok.1 h
  rw [pathExists, hp]
  rfl

/-- What is not there cannot be read. -/
theorem find?_of_read {b : Bytes} (h : t.read path = .ok b) :
    t.find? (t.place path) ≠ none := by
  obtain ⟨p, id, hp, hf⟩ := read_ok.1 h
  rw [← place_of_resolve hp, hf]
  exact fun h => (nomatch h)

/-- A file is read as before where things are only added. -/
theorem Adds.read {touched : Place → Prop} (h : Adds touched t t') {b : Bytes}
    (hr : t.read path = .ok b) : t'.read path = .ok b :=
  h.changes.read hr fun ht => find?_of_read hr ht.2

end Tree
end Vigil
