import Vigil.Proofs.Files.Operation

/-!
# Files — what is in the way

A path leads nowhere either because a name on it is missing, or because something is in the way: a
file where a directory is needed, or a name or path that the system does not take
(`Tree.BarredPath`).  The system tells the two apart by its failures.

* `follow_failure`: names cannot be followed, and none of them is missing, exactly if something is
  in the way.
* `resolve_failure`: the same for a path.
-/

namespace Vigil.Tree

/-- Something is in the way when names are followed from a place, with a slash behind them or
not. -/
inductive Barred (t : Tree) (slash : Bool) : Place → List String → Prop where
  /-- There is a file, and the way goes on, be it only with a slash. -/
  | file {p : Place} {names : List String} {id : Nat} {b : Bytes}
      (hf : t.find? p = some (.file id b)) (h : names ≠ [] ∨ slash = true) :
      Barred t slash p names
  | longName {p : Place} {name : String} {names : List String}
      (hd : t.find? p = some .directory) (hl : maxName < name.utf8ByteSize) :
      Barred t slash p (name :: names)
  | further {p : Place} {name : String} {names : List String}
      (hd : t.find? p = some .directory) (h : Barred t slash (Path.move p name) names) :
      Barred t slash p (name :: names)

/-- Something is in the way of a path, or the system cannot be asked about it. -/
def BarredPath (t : Tree) (path : String) : Prop :=
  path.contains '\x00' = true ∨ maxPath < path.utf8ByteSize ∨
    t.Barred (Path.endsInSlash path) (Path.start t.workingDirectory path) (Path.names path)

/-- Names are followed from a place, with a slash behind them or not. -/
def follow (t : Tree) (slash : Bool) (names : List String) (p : Place) : Except OsError Place := do
  let q ← names.foldlM t.step p
  if slash then t.needDirectory q
  .ok q

theorem resolve_eq (t : Tree) (path : String) :
    t.resolve path = t.origin path >>= fun start =>
      lift (t.follow (Path.endsInSlash path) (Path.names path) start) := rfl

variable {t : Tree} {slash : Bool} {p : Place} {name path : String} {names : List String}

theorem follow_cons : t.follow slash (name :: names) p = t.step p name >>= t.follow slash names := by
  rw [follow, List.foldlM_cons]
  cases t.step p name <;> rfl

/-! ### Failures -/

/-- A computation that fails, and not because something is missing. -/
def Fails {α : Type} (x : Except OsError α) : Prop := ∃ e, x = .error e ∧ e ≠ .notFound

theorem not_fails_ok {α : Type} {a : α} : ¬ Fails (.ok a : Except OsError α) :=
  fun ⟨_, h, _⟩ => nomatch h

theorem fails_error {α : Type} {e : OsError} : Fails (.error e : Except OsError α) ↔ e ≠ .notFound :=
  ⟨fun ⟨_, h, hn⟩ => by cases h; exact hn, fun hn => ⟨e, rfl, hn⟩⟩

theorem fails_bind {α β : Type} {x : Except OsError α} {f : α → Except OsError β} :
    Fails (x >>= f) ↔ Fails x ∨ ∃ a, x = .ok a ∧ Fails (f a) := by
  cases x with
  | error e =>
      have hbind : (Except.error e : Except OsError α) >>= f = .error e := rfl
      rw [hbind, fails_error, fails_error]
      exact ⟨Or.inl, fun h => h.elim (fun h => h) fun ⟨_, h, _⟩ => nomatch h⟩
  | ok a =>
      refine ⟨fun h => Or.inr ⟨a, rfl, h⟩, fun h => h.elim (fun h => absurd h not_fails_ok) ?_⟩
      rintro ⟨_, h, hf⟩
      cases h
      exact hf

theorem needDirectory_failure :
    Fails (t.needDirectory p) ↔ ∃ id b, t.find? p = some (.file id b) := by
  rw [needDirectory]
  cases t.find? p with
  | none => exact iff_of_false (mt fails_error.1 (not_not_intro rfl)) (by simp)
  | some e =>
      cases e with
      | directory => exact iff_of_false not_fails_ok (by simp)
      | file id b => exact iff_of_true (fails_error.2 (by decide)) ⟨id, b, rfl⟩

/-- A step fails in a file, and for a long name. -/
theorem step_failure :
    Fails (t.step p name) ↔ (∃ id b, t.find? p = some (.file id b)) ∨
      t.find? p = some .directory ∧ maxName < name.utf8ByteSize := by
  rw [step, fails_bind, needDirectory_failure]
  refine or_congr_right ?_
  constructor
  · rintro ⟨⟨⟩, hd, h⟩
    refine ⟨needDirectory_ok.1 hd, Decidable.byContradiction fun hl => ?_⟩
    rw [if_neg hl] at h
    split at h
    next => exact not_fails_ok h
    next =>
      split at h
      next => exact not_fails_ok h
      next =>
        split at h
        next => exact not_fails_ok h
        next => exact fails_error.1 h rfl
  · rintro ⟨hd, hl⟩
    refine ⟨(), needDirectory_ok.2 hd, ?_⟩
    have h₁ : name ≠ "." := fun h => absurd hl (by rw [h]; decide)
    have h₂ : name ≠ ".." := fun h => absurd hl (by rw [h]; decide)
    rw [if_neg h₁, if_neg h₂, if_pos hl]
    exact fails_error.2 (by decide)

/-! ### The way of a path -/

/-- What is in the way is somewhere. -/
theorem Barred.isSome (h : t.Barred slash p names) : (t.find? p).isSome = true := by
  cases h with
  | file hf => rw [hf]; rfl
  | longName hd => rw [hd]; rfl
  | further hd => rw [hd]; rfl

/-- Names cannot be followed, and none is missing, exactly if something is in the way. -/
theorem follow_failure : Fails (t.follow slash names p) ↔ t.Barred slash p names := by
  induction names generalizing p with
  | nil =>
      have hend : Fails (t.follow slash [] p) ↔ slash = true ∧ Fails (t.needDirectory p) := by
        cases slash with
        | false => exact iff_of_false not_fails_ok fun h => Bool.false_ne_true h.1
        | true =>
            have hneed : t.follow true [] p = t.needDirectory p >>= fun _ => .ok p := rfl
            rw [hneed, fails_bind]
            refine ⟨fun h => ⟨rfl, h.resolve_right ?_⟩, fun h => Or.inl h.2⟩
            exact fun ⟨_, _, h⟩ => not_fails_ok h
      rw [hend, needDirectory_failure]
      constructor
      · rintro ⟨hs, id, b, hf⟩
        exact .file hf (Or.inr hs)
      · intro h
        cases h with
        | file hf h => exact ⟨h.resolve_left (not_not_intro rfl), _, _, hf⟩
  | cons name names ih =>
      rw [follow_cons, fails_bind, step_failure]
      constructor
      · rintro ((⟨id, b, hf⟩ | ⟨hd, hl⟩) | ⟨q, hq, h⟩)
        · exact .file hf (Or.inl (List.cons_ne_nil _ _))
        · exact .longName hd hl
        · obtain ⟨hd, rfl, -⟩ := step_ok.1 hq
          exact .further hd (ih.1 h)
      · intro h
        cases h with
        | file hf => exact Or.inl (Or.inl ⟨_, _, hf⟩)
        | longName hd hl => exact Or.inl (Or.inr ⟨hd, hl⟩)
        | further hd h =>
            by_cases hl : maxName < name.utf8ByteSize
            · exact Or.inl (Or.inr ⟨hd, hl⟩)
            · refine Or.inr ⟨_, step_ok.2 ⟨hd, rfl, fun _ _ => ⟨Nat.not_lt.1 hl, h.isSome⟩⟩, ?_⟩
              exact ih.2 h

/-- A failure of the system, other than that something is missing. -/
theorem lift_failure {α : Type} {x : Except OsError α} :
    (∃ f, lift x = .error f ∧ f.isNotFound = false) ↔ Fails x := by
  cases x with
  | ok a => exact iff_of_false (fun ⟨_, h, _⟩ => nomatch h) not_fails_ok
  | error e =>
      rw [fails_error]
      constructor
      · rintro ⟨_, hf, hno⟩ rfl
        cases hf
        cases hno
      · exact fun hne => ⟨_, rfl, decide_eq_false fun h => hne (FileFailure.system.inj h)⟩

/-- A path fails, and nothing on it is missing, exactly if something is in its way. -/
theorem resolve_failure :
    (∃ f, t.resolve path = .error f ∧ f.isNotFound = false) ↔ t.BarredPath path := by
  rw [BarredPath]
  by_cases hnul : path.contains '\x00' = true
  · have horigin : t.origin path = .error .nulInPath := by rw [origin, if_pos hnul]
    rw [resolve_eq, horigin]
    exact iff_of_true ⟨_, rfl, rfl⟩ (Or.inl hnul)
  by_cases hlong : maxPath < path.utf8ByteSize
  · have horigin : t.origin path = .error (.system .nameTooLong) := by
      rw [origin, if_neg hnul, if_pos hlong]
    rw [resolve_eq, horigin]
    exact iff_of_true ⟨_, rfl, rfl⟩ (Or.inr (Or.inl hlong))
  rw [or_iff_right hnul, or_iff_right hlong, ← follow_failure]
  by_cases hempty : path.isEmpty = true
  · have horigin : t.origin path = .error (.system .notFound) := by
      rw [origin, if_neg hnul, if_neg hlong, if_pos hempty]
    have hfollow : t.follow (Path.endsInSlash path) (Path.names path)
        (Path.start t.workingDirectory path) = .ok (Path.start t.workingDirectory path) := by
      rw [String.isEmpty_iff.1 hempty]
      rfl
    rw [resolve_eq, horigin, hfollow]
    refine iff_of_false ?_ not_fails_ok
    rintro ⟨_, hf, hno⟩
    cases hf
    cases hno
  · have horigin : t.origin path = .ok (Path.start t.workingDirectory path) := by
      rw [origin, if_neg hnul, if_neg hlong, if_neg hempty]
      rfl
    rw [resolve_eq, horigin]
    exact lift_failure

/-- Nothing is at the end of a path with something in its way. -/
theorem BarredPath.pathExists (h : t.BarredPath path) : t.pathExists path = false := by
  obtain ⟨f, hf, -⟩ := resolve_failure.2 h
  rw [Tree.pathExists, hf]
  rfl

end Vigil.Tree
