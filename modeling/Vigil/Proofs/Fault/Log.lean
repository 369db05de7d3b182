import Vigil.Fault.Log
import Vigil.Proofs.Files.Operation
import Vigil.Proofs.Run
import Vigil.Proofs.Text.Utf8

/-!
# Fault — how the log grows

What is at the place of a log is nothing or a file (`Log.Contains`).  Bytes that are appended to it
stand behind those that were there, whether the log is opened for it or was opened before.

* `read_append`, `find?_append`, `contains_append`: appending to a log.
* `read_appendTo`: writing to a file that is open.
* `exists_read_iff`: a log that is there can be read exactly if it is a text.
* `read_run`: the text of a log that was empty and is appended to again and again.
-/

namespace Vigil

/-! ### A file that is open -/

namespace Tree
variable {t : Tree} {path : String} {id : Nat} {b bytes : Bytes}

theorem resolve_appendTo {p : Place} (h : t.resolve path = .ok p) :
    (t.appendTo id bytes).resolve path = .ok p := by
  have hk := t.keeps_appendTo id bytes
  obtain ⟨start, ho, hs, hd⟩ := resolve_ok.1 h
  refine resolve_ok.2 ⟨start, (hk.origin path).trans ho, hk.foldlM_step ?_ hs, fun hslash =>
    hk.directories p (hd hslash)⟩
  rw [find?_appendTo, Option.isSome_map]
  exact fun he => he

theorem find?_appendTo_self {p : Place} (hf : t.find? p = some (.file id b)) :
    (t.appendTo id bytes).find? p = some (.file id (b ++ bytes)) := by
  rw [find?_appendTo, hf, Option.map_some, Entry.appended, if_pos rfl]

/-- What is written to a file that is open is read behind what was there. -/
theorem read_appendTo (h : t.read path = .ok b)
    (hf : t.find? (t.place path) = some (.file id b)) :
    (t.appendTo id bytes).read path = .ok (b ++ bytes) := by
  obtain ⟨p, _, hp, -⟩ := read_ok.1 h
  rw [← place_of_resolve hp] at hf
  exact read_ok.2 ⟨p, id, resolve_appendTo hp, find?_appendTo_self hf⟩

/-! ### A log in the root directory -/

section
variable (t)

theorem origin_slash : t.origin "/" = .ok [] := by
  rw [origin, if_neg (by simp), if_neg (by decide), if_neg (by decide)]
  rfl

theorem isDirectory_slash : t.isDirectory "/" = true := by
  have hnames : Path.names "/" = [] := by decide
  have hresolve : t.resolve "/" = .ok [] :=
    resolve_ok.2 ⟨[], t.origin_slash, by rw [hnames]; rfl, fun _ => rfl⟩
  rw [isDirectory, hresolve]
  exact decide_eq_true rfl

theorem makeDirectory_slash : t.makeDirectory "/" = .error (.system .alreadyExists) := by
  have hnames : Path.names "/" = [] := by decide
  rw [makeDirectory, resolveParent, t.origin_slash]
  simp only [bind, Except.bind, hnames, List.reverse_nil, lift]

theorem makeParents_log : t.makeParents "/crash.log" = (t, .ok ()) := by
  have hparent : Path.parent? "/crash.log" = some "/" := by decide
  have hancestors : Path.ancestors "/".length "/" = [] := by decide
  rw [makeParents, hparent]
  simp only [makeDirectories, hancestors, makeDirectoriesFrom, retryDirectory,
    t.makeDirectory_slash, t.isDirectory_slash, if_true]
  rw [if_neg (by decide)]

theorem origin_log : t.origin "/crash.log" = .ok [] := by
  rw [origin, if_neg (by simp), if_neg (by decide), if_neg (by decide)]
  rfl

theorem resolveParent_log :
    t.resolveParent "/crash.log" = .ok ([], .name "crash.log" false) :=
  resolveParent_ok.2
    ⟨[], [], t.origin_log, by decide, rfl, rfl, by decide, by decide, by decide⟩

theorem place_log : t.place "/crash.log" = ["crash.log"] :=
  place_of_resolveParent t.resolveParent_log

theorem read_log (h : t.find? ["crash.log"] = none) :
    t.read "/crash.log" = .error (.system .notFound) :=
  read_of_missing t.origin_log rfl (by decide) (by decide) (by decide) (by decide) h

/-- A log in the root directory can be opened, unless there is a directory in its place. -/
theorem openAppend_log (h : t.find? ["crash.log"] ≠ some .directory) :
    ∃ t' id, t.openAppend "/crash.log" = (t', .ok id) := by
  obtain ⟨t', id, ho⟩ := openFile_of_resolveParent t.resolveParent_log (by decide) h
  refine ⟨t', id, ?_⟩
  rw [openAppend_eq, t.makeParents_log]
  simp only [ho]

end

end Tree

namespace Fault.Log
variable {t t' : Tree} {path : String} {b bytes : Bytes}

/-- What is at the place of the log: a file with these contents, or nothing, which counts as an
empty file. -/
def Contains (t : Tree) (path : String) (b : Bytes) : Prop :=
  (∃ id, t.find? (t.place path) = some (.file id b)) ∨ t.find? (t.place path) = none ∧ b = []

theorem contains_of_read (h : t.read path = .ok b) : Contains t path b := by
  obtain ⟨p, id, hp, hf⟩ := Tree.read_ok.1 h
  exact Or.inl ⟨id, Tree.place_of_resolve hp ▸ hf⟩

/-- A report is appended to the log, and said to be there. -/
def Appended (path : String) (t : Tree) (bytes : Bytes) (t' : Tree) : Prop :=
  append t path bytes = (t', true)

/-- There is no log, or an empty one. -/
def Empty (t : Tree) (path : String) : Prop := read t path = .ok [] ∧ Contains t path []

/-- The text of a log that can be read. -/
theorem read_of_decode? {s : List Char} (h : t.read path = .ok b) (hs : Text.decode? b = some s) :
    read t path = .ok s := by
  have htext : t.readText path = .ok s := Except.bind_ok.2 ⟨b, h, by rw [hs]⟩
  rw [read, htext]

/-- A log that is there can be read exactly if it is a text. -/
theorem exists_read_iff (h : t.read path = .ok b) :
    (∃ s, read t path = .ok s) ↔ Text.IsText b := by
  rw [Text.isText_iff]
  constructor
  · rintro ⟨s, hs⟩
    cases hd : Text.decode? b with
    | some s => exact ⟨s, rfl⟩
    | none =>
        have htext : t.readText path = .error .notText := by
          rw [Tree.readText, h]
          simp only [bind, Except.bind, hd]
        rw [read, htext] at hs
        cases hs
  · rintro ⟨s, hs⟩
    exact ⟨s, read_of_decode? h hs⟩

/-- The file that is opened is the log, and holds what was at its place. -/
theorem contains_openAppend {id : Nat} (hc : Contains t path b)
    (ho : t.openAppend path = (t', .ok id)) :
    t'.read path = .ok b ∧ t'.find? (t'.place path) = some (.file id b) := by
  obtain ⟨b₁, hr, hf, hold⟩ := Tree.read_openAppend ho
  obtain rfl : b₁ = b := by
    rcases hc with ⟨i, hc⟩ | ⟨hc, rfl⟩
    · rcases hold with hold | ⟨hold, -⟩
      · cases hc.symm.trans hold
        rfl
      · cases hc.symm.trans hold
    · rcases hold with hold | ⟨-, rfl⟩
      · cases hc.symm.trans hold
      · rfl
  exact ⟨hr, hf⟩

/-- A file that is there is the one that is opened. -/
theorem find?_openAppend {id i : Nat} (hf : t.find? (t.place path) = some (.file id b))
    (ho : t.openAppend path = (t', .ok i)) :
    i = id ∧ t'.find? (t'.place path) = some (.file id b) := by
  have hadds := t.adds_openAppend path
  rw [ho] at hadds
  have hkept := hadds.find? hf
  rw [← hadds.place] at hkept
  obtain ⟨-, hopen⟩ := contains_openAppend (Or.inl ⟨id, hf⟩) ho
  cases hkept.symm.trans hopen
  exact ⟨rfl, hkept⟩

/-! ### One report -/

/-- A report that is said to be in the log is behind what was there. -/
theorem contains_append (hc : Contains t path b) (h : append t path bytes = (t', true)) :
    t'.read path = .ok (b ++ bytes) ∧ Contains t' path (b ++ bytes) := by
  rw [append] at h
  split at h
  next t₁ id ho =>
    cases h
    obtain ⟨hr, hf⟩ := contains_openAppend hc ho
    have hread : (t₁.appendTo id bytes).read path = .ok (b ++ bytes) :=
      Tree.read_appendTo hr hf
    exact ⟨hread, contains_of_read hread⟩
  next => cases h

/-- A log that can be read is read afterwards, with the report behind it if it is said to be
there; the report may be appended under another path to the same place. -/
theorem read_append {log : String} (h : t.read log = .ok b) (hp : t.place path = t.place log) :
    (append t path bytes).1.read log =
      .ok (b ++ if (append t path bytes).2 then bytes else []) := by
  obtain ⟨p, id, hplace, hf⟩ := Tree.read_ok.1 h
  rw [Tree.place_of_resolve hplace, ← hp] at hf
  have hadds := t.adds_openAppend path
  rw [append]
  split
  next t₁ i ho =>
    rw [ho] at hadds
    obtain ⟨rfl, hopen⟩ := find?_openAppend hf ho
    rw [hadds.place, hp, ← hadds.place] at hopen
    exact Tree.read_appendTo (hadds.read h) hopen
  next t₁ _ ho =>
    rw [ho] at hadds
    exact (hadds.read h).trans (by simp)

/-- The log is the same file afterwards. -/
theorem find?_append {id : Nat} (hf : t.find? (t.place path) = some (.file id b)) :
    (append t path bytes).1.find? ((append t path bytes).1.place path) =
      some (.file id (b ++ if (append t path bytes).2 then bytes else [])) := by
  have hadds := t.adds_openAppend path
  rw [append]
  split
  next t₁ i ho =>
    obtain ⟨rfl, hopen⟩ := find?_openAppend hf ho
    rw [(t₁.keeps_appendTo i bytes).place]
    exact Tree.find?_appendTo_self hopen
  next t₁ _ ho =>
    rw [ho] at hadds
    rw [hadds.place]
    exact (hadds.find? hf).trans (by simp)

theorem place_append (t : Tree) (path : String) (bytes : Bytes) (log : String) :
    (append t path bytes).1.place log = t.place log := by
  have hadds := t.adds_openAppend path
  rw [append]
  split
  next t₁ i ho =>
    rw [ho] at hadds
    exact ((t₁.keeps_appendTo i bytes).place log).trans (hadds.place log)
  next t₁ _ ho =>
    rw [ho] at hadds
    exact hadds.place log

theorem keeps_append (wf : t.WellFormed) (path : String) (bytes : Bytes) :
    Tree.Keeps (t.OnTheWay path) t (append t path bytes).1 := by
  have hk := (t.adds_openAppend path).keeps
  rw [append]
  split
  next t₁ id ho =>
    rw [ho] at hk
    have wf₁ := hk.wellFormed wf
    obtain ⟨b, -, hf, -⟩ := Tree.read_openAppend ho
    -- The file has an identity of its own, so nothing grows elsewhere.
    refine hk.trans ((t₁.keeps_appendTo id bytes).mono fun p ⟨c, hc⟩ => ?_)
    rw [wf₁.id_unique p _ id c b hc hf, hk.place]
    exact t.onTheWay_self path
  next ho =>
    rw [ho] at hk
    exact hk

theorem appended_log (h : t.find? ["crash.log"] ≠ some .directory) (bytes : Bytes) :
    ∃ t', Appended "/crash.log" t bytes t' := by
  obtain ⟨t₁, id, ho⟩ := t.openAppend_log h
  exact ⟨t₁.appendTo id bytes, by rw [Appended, append, ho]⟩

theorem empty_log (h : t.find? ["crash.log"] = none) : Empty t "/crash.log" := by
  refine ⟨?_, Or.inr ⟨(congrArg t.find? t.place_log).trans h, rfl⟩⟩
  rw [read, Tree.readText, t.read_log h]
  rfl

/-! ### One report after another -/

/-- Reports that are all said to be in the log are there in this order. -/
theorem contains_run {bs : List Bytes} (hc : Contains t path b)
    (h : Run (Appended path) t bs t') :
    Contains t' path (b ++ bs.flatten) ∧ (bs ≠ [] → t'.read path = .ok (b ++ bs.flatten)) := by
  induction h generalizing b with
  | refl => exact ⟨by rwa [List.flatten_nil, List.append_nil], fun h => absurd rfl h⟩
  | @more t t₁ t' bytes bs h hrun ih =>
      obtain ⟨hr, hc₁⟩ := contains_append hc h
      obtain ⟨hc', hr'⟩ := ih hc₁
      rw [List.flatten_cons, ← List.append_assoc]
      refine ⟨hc', fun _ => ?_⟩
      cases hrun with
      | refl => rwa [List.flatten_nil, List.append_nil]
      | more => exact hr' (List.cons_ne_nil _ _)

/-- Texts that are all appended to an empty log are the text of the log. -/
theorem read_run {texts : List (List Char)} (he : Empty t path)
    (h : Run (Appended path) t (texts.map Text.encode) t') :
    read t' path = .ok texts.flatten := by
  cases texts with
  | nil =>
      cases h
      exact he.1
  | cons text texts =>
      have hr := (contains_run he.2 h).2 (List.cons_ne_nil _ _)
      rw [List.nil_append, ← Text.encode_flatten] at hr
      exact read_of_decode? hr (Text.decode?_encode _)

end Fault.Log
end Vigil
