import Vigil.Proofs.Fault.Log
import Vigil.Proofs.Files.Parent
import Vigil.Proofs.Platform.Frame
import Vigil.Reporter

/-!
# Reporter — the evidence on disk

What is at the path of the marker: nothing, or a file that can be read (`Tree.Holds`).  The
operations of the marker store change this as they should, and reports that are appended to a log
elsewhere leave it alone.

* `holds_remove`, `holds_write`, `fst_read`: deleting, writing and reading the marker.
* `Guarded`: what a platform has to keep for the evidence to be safe; `Guarded.record`,
  `Guarded.panic` and the like say which operations keep it.
-/

namespace Vigil

/-! ### The marker's file -/

/-- What is at a path: nothing, or a file with these contents. -/
def Tree.Holds (t : Tree) (path : String) : Option Bytes → Prop
  | none => t.find? (t.place path) = none
  | some b => t.read path = .ok b

namespace Tree
variable {t t' : Tree} {path : String} {e : Option Bytes}

theorem Holds.pathExists (h : t.Holds path e) (wf : t.WellFormed) :
    t.pathExists path = e.isSome := by
  cases e with
  | none => exact wf.pathExists_eq_false h
  | some b => exact pathExists_of_read h

theorem Holds.keeps (h : t.Holds path e) {touched : Place → Prop} (hk : Keeps touched t t')
    (hn : ¬ touched (t.place path)) : t'.Holds path e := by
  cases e with
  | none => exact (congrArg t'.find? (hk.place path)).trans ((hk.elsewhere _ hn).trans h)
  | some b => exact hk.read h hn

end Tree

namespace Marker
variable {t t' : Tree} {path : String} {e : Option Bytes}

/-- The text that is found of an earlier session. -/
theorem fst_read (h : t.Holds path e) (hr : ∀ f, t.read path = .error f → f.isNotFound = true) :
    (read t path).1 = e.map Text.decodeLossy := by
  rw [read]
  cases e with
  | some b => rw [show t.read path = .ok b from h]; rfl
  | none =>
      cases hread : t.read path with
      | ok b => exact absurd h (Tree.find?_of_read hread)
      | error f => simp [hr f hread]

/-- After the marker is deleted nothing is left, whether there was one or not. -/
theorem holds_remove (h : t.Holds path e) (wf : t.WellFormed) :
    (remove t path).1.Holds path none := by
  rw [remove]
  split
  next hr => exact Tree.find?_remove hr
  next f hr =>
    cases e with
    | some b =>
        obtain ⟨t', ht⟩ := Tree.remove_of_read wf h
        rw [ht] at hr
        cases hr
    | none => split <;> exact h

theorem keeps_remove (t : Tree) (path : String) :
    Tree.Keeps (· = t.place path) t (remove t path).1 := by
  rw [remove]
  split
  next hr => exact Tree.keeps_remove hr
  next => split <;> exact .refl t

/-- Writing the marker makes the directories above it, and then writes the file or fails. -/
theorem write_cases (t : Tree) (path : String) (m : Marker) :
    (write t path m).1 = (t.makeParents path).1 ∧ (∃ e, (write t path m).2 = .error e) ∨
      (t.makeParents path).1.write path (Text.encode m.toText) = .ok (write t path m).1 ∧
        (write t path m).2 = .ok () := by
  rw [write, Tree.makeParents]
  cases Path.parent? path with
  | none =>
      simp only
      cases hw : t.write path (Text.encode m.toText) with
      | ok => exact Or.inr ⟨rfl, rfl⟩
      | error => exact Or.inl ⟨rfl, _, rfl⟩
  | some parent =>
      simp only
      rcases t.makeDirectories parent with ⟨t₁, e | made⟩
      · exact Or.inl ⟨rfl, _, rfl⟩
      · simp only
        cases hw : t₁.write path (Text.encode m.toText) with
        | ok => exact Or.inr ⟨rfl, rfl⟩
        | error => exact Or.inl ⟨rfl, _, rfl⟩

/-- The marker can be written into a directory that is there, unless it has a directory of that
name. -/
theorem write_of_resolveParent {q : Place} {name : String}
    (hr : t.resolveParent path = .ok (q, .name name false)) (hlen : name.utf8ByteSize ≤ Tree.maxName)
    (hd : t.find? (q ++ [name]) ≠ some .directory) (m : Marker) : (write t path m).2 = .ok () := by
  obtain ⟨t₁, id, ho⟩ := Tree.openFile_of_resolveParent hr hlen hd
  have hwrite : t.write path (Text.encode m.toText) =
      .ok (t₁.put (q ++ [name]) (.file id (Text.encode m.toText))) :=
    Except.bind_ok.2 ⟨_, ho, rfl⟩
  have hparents := Tree.makeParents_of_resolveParent hr
  rw [Tree.makeParents] at hparents
  rw [write]
  cases hp : Path.parent? path with
  | none => simp only [hwrite]
  | some parent =>
      rw [hp] at hparents
      simp only [hparents, hwrite]

theorem holds_write {m : Marker} (h : (write t path m).2 = .ok ()) :
    (write t path m).1.Holds path (some (Text.encode m.toText)) := by
  rcases write_cases t path m with ⟨-, e, he⟩ | ⟨hw, -⟩
  · rw [h] at he
    cases he
  · exact Tree.read_write hw

theorem keeps_write (t : Tree) (path : String) (m : Marker) :
    Tree.Keeps (t.OnTheWay path) t (write t path m).1 := by
  have hk := (t.adds_makeParents path).keeps
  rcases write_cases t path m with ⟨he, -⟩ | ⟨hw, -⟩
  · rw [he]
    exact hk
  · refine hk.trans ((Tree.keeps_write hw).mono fun p hp => ?_)
    rw [hp, hk.place]
    exact t.onTheWay_self path

end Marker

/-! ### Interceptors -/

namespace Interceptor

/-- Neither files nor captures are changed. -/
def Untouched (p p' : Platform) : Prop := p'.files = p.files ∧ p'.captures = p.captures

theorem Untouched.trans {p p₁ p' : Platform} (h₁ : Untouched p p₁) (h₂ : Untouched p₁ p') :
    Untouched p p' :=
  ⟨h₂.1.trans h₁.1, h₂.2.trans h₁.2⟩

theorem untouched_of_rewires {p p' : Platform} (h : p.Rewires p') : Untouched p p' := by
  rw [Untouched, h]
  exact ⟨rfl, rfl⟩

theorem untouched_drop (i : Interceptor) (p : Platform) : Untouched p (i.drop p) := by
  cases i <;> exact ⟨rfl, rfl⟩

theorem untouched_armAll (capture : Nat) (is : List Interceptor) (p : Platform) :
    Untouched p (armAll capture is p).2.1 :=
  untouched_of_rewires (rewires_armAll p capture is)

theorem untouched_disarmAll (is : List Interceptor) (p : Platform) :
    Untouched p (disarmAll is p).2 :=
  untouched_of_rewires (rewires_disarmAll p is)

end Interceptor

/-! ### The platform -/

/-- Neither a log nor a directory above it is where the marker is. -/
def Path.Apart (wd : Place) (marker log : String) : Prop :=
  ∀ d, Above log d → place wd d ≠ place wd marker

/-- A log in a directory that has no parent is apart from a marker that is neither of the two. -/
theorem Path.Apart.of_parent {wd : Place} {marker log d : String} (hlog : parent? log = some d)
    (hd : parent? d = none) (h : place wd log ≠ place wd marker)
    (h' : place wd d ≠ place wd marker) : Apart wd marker log := by
  have habove : ∀ e, Above log e → e = log ∨ e = d := by
    intro e he
    induction he with
    | self => exact Or.inl rfl
    | parent _ hp ih =>
        rcases ih with rfl | rfl
        · exact Or.inr (Option.some.inj (hp.symm.trans hlog))
        · cases hp.symm.trans hd
  intro e he
  rcases habove e he with rfl | rfl
  · exact h
  · exact h'

theorem Path.Apart.not_onTheWay {t : Tree} {marker log : String}
    (h : Apart t.workingDirectory marker log) : ¬ t.OnTheWay log (t.place marker) :=
  fun ⟨d, hd, hp⟩ => h d hd hp.symm

namespace Platform

/-- The evidence `e` is at the path of the marker, and nothing that can be recorded goes there. -/
structure Guarded (wd : Place) (marker : String) (e : Option Bytes) (p : Platform) : Prop where
  workingDirectory : p.files.workingDirectory = wd
  wellFormed : p.files.WellFormed
  holds : p.files.Holds marker e
  apart : ∀ c ∈ p.captures, Path.Apart wd marker c.logPath

namespace Guarded
variable {wd : Place} {marker log : String} {e : Option Bytes} {p p' : Platform}

theorem untouched (h : p.Guarded wd marker e) (hs : Interceptor.Untouched p p') :
    p'.Guarded wd marker e where
  workingDirectory := hs.1 ▸ h.workingDirectory
  wellFormed := hs.1 ▸ h.wellFormed
  holds := hs.1 ▸ h.holds
  apart := hs.2 ▸ h.apart

/-- The files are changed, and with them the evidence. -/
theorem refiled {e' : Option Bytes} {touched : Place → Prop} (h : p.Guarded wd marker e)
    (hk : Tree.Keeps touched p.files p'.files) (hh : p'.files.Holds marker e')
    (hc : p'.captures = p.captures) : p'.Guarded wd marker e' where
  workingDirectory := hk.workingDirectory.trans h.workingDirectory
  wellFormed := hk.wellFormed h.wellFormed
  holds := hh
  apart := hc ▸ h.apart

/-- The marker is deleted. -/
theorem removed (h : p.Guarded wd marker e) (hf : p'.files = (Marker.remove p.files marker).1)
    (hc : p'.captures = p.captures) : p'.Guarded wd marker none := by
  have hk := Marker.keeps_remove p.files marker
  have hh := Marker.holds_remove h.holds h.wellFormed
  rw [← hf] at hk hh
  exact h.refiled hk hh hc

/-- Only what is on the way to a log is touched. -/
theorem logged (h : p.Guarded wd marker e) (ha : Path.Apart wd marker log)
    (hk : Tree.Keeps (p.files.OnTheWay log) p.files p'.files)
    (hc : ∀ c ∈ p'.captures, Path.Apart wd marker c.logPath) : p'.Guarded wd marker e where
  workingDirectory := hk.workingDirectory.trans h.workingDirectory
  wellFormed := hk.wellFormed h.wellFormed
  holds := h.holds.keeps hk (h.workingDirectory ▸ ha).not_onTheWay
  apart := hc

theorem addCapture (h : p.Guarded wd marker e) (ha : Path.Apart wd marker log) (registry : Nat) :
    (p.addCapture registry log).Guarded wd marker e := by
  refine h.logged ha ((p.files.adds_openAppend log).keeps) ?_
  intro c hc
  rcases List.mem_append.1 hc with hc | hc
  · exact h.apart c hc
  · cases List.mem_singleton.1 hc
    exact ha

theorem record (h : p.Guarded wd marker e) (capture : Nat) (fault : Fault) :
    (p.record capture fault).1.Guarded wd marker e := by
  rw [Platform.record]
  split
  next => exact h
  next c hc =>
    have ha := h.apart c (List.mem_of_getElem? hc)
    refine h.logged ha (Fault.Log.keeps_append h.wellFormed _ _) fun d hd => ?_
    rcases List.mem_or_eq_of_mem_set hd with hd | rfl
    · exact h.apart d hd
    · exact ha

theorem recordAll (h : p.Guarded wd marker e) (captures : List Nat) (fault : Fault) :
    (p.recordAll captures fault).Guarded wd marker e := by
  rw [Platform.recordAll]
  induction captures generalizing p with
  | nil => exact h
  | cons id captures ih => exact ih (h.record id fault)

theorem panic (h : p.Guarded wd marker e) (message thread : Option String) :
    (p.panic message thread).Guarded wd marker e :=
  (h.recordAll _ _).untouched ⟨rfl, rfl⟩

end Guarded
end Platform
end Vigil
