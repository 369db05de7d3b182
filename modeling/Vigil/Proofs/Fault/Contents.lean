import Vigil.Proofs.Fault.Readable
import Vigil.Proofs.Files.Parent
import Vigil.Proofs.Platform.Frame

/-!
# Fault — the contents of a log

What is at the place of a log, as far as it is a file (`Log.contents`); nothing, or a directory,
counts as empty.  It only changes where something is appended, under its own path or to the file
that was opened before (`Log.Opened`).

* `contents_adds`, `contents_keeps`: what leaves the contents alone.
* `contents_append`, `contents_appendTo`: what is appended stands behind what was there.
* `ready_append`: a log that was opened once can be opened again.
* `Platform.Extends`: something is appended to a log, maybe nothing, and captures lead to it as
  before; `Extends.record`, `Extends.recordSignal` and the like say which operations append what.
-/

namespace Vigil.Fault.Log
variable {t t' : Tree} {path : String} {b bytes : Bytes} {id : Nat} {touched : Place → Prop}

/-- The contents of the file at the place of a log. -/
def contents (t : Tree) (path : String) : Bytes :=
  match t.find? (t.place path) with
  | some (.file _ b) => b
  | _ => []

/-- A file that was opened is the one at the place of the log. -/
def Opened (t : Tree) (path : String) (id : Nat) : Prop :=
  ∃ b, t.find? (t.place path) = some (.file id b)

theorem contents_of_find? (h : t.find? (t.place path) = some (.file id b)) :
    contents t path = b := by
  rw [contents, h]

/-! ### What leaves it alone -/

theorem contents_adds (h : Tree.Adds touched t t') : contents t' path = contents t path := by
  rw [contents, contents, h.place]
  cases hf : t.find? (t.place path) with
  | some e => rw [h.find? hf]
  | none =>
      cases hf' : t'.find? (t.place path) with
      | none => rfl
      | some e =>
          cases e with
          | directory => rfl
          | file id b =>
              -- Files that are added are empty.
              rcases h.empty _ id b hf' with hold | rfl
              · cases hf.symm.trans hold
              · rfl

theorem contents_keeps (h : Tree.Keeps touched t t') (hn : ¬ touched (t.place path)) :
    contents t' path = contents t path := by
  rw [contents, contents, h.place, h.elsewhere _ hn]

theorem Opened.adds (h : Opened t path id) (ha : Tree.Adds touched t t') : Opened t' path id := by
  obtain ⟨b, hb⟩ := h
  exact ⟨b, by rw [ha.place, ha.find? hb]⟩

theorem Opened.keeps (h : Opened t path id) (hk : Tree.Keeps touched t t')
    (hn : ¬ touched (t.place path)) : Opened t' path id := by
  obtain ⟨b, hb⟩ := h
  exact ⟨b, by rw [hk.place, hk.elsewhere _ hn, hb]⟩

/-! ### What is appended -/

theorem Opened.appendTo (h : Opened t path id) (i : Nat) (bytes : Bytes) :
    Opened (t.appendTo i bytes) path id := by
  obtain ⟨b, hb⟩ := h
  rw [Opened, (t.keeps_appendTo i bytes).place, Tree.find?_appendTo, hb]
  exact ⟨_, rfl⟩

theorem contents_appendTo (h : Opened t path id) (bytes : Bytes) :
    contents (t.appendTo id bytes) path = contents t path ++ bytes := by
  obtain ⟨b, hb⟩ := h
  have hf : (t.appendTo id bytes).find? (t.place path) = _ := Tree.find?_appendTo_self hb
  rw [← (t.keeps_appendTo id bytes).place] at hf
  rw [contents_of_find? hb, contents_of_find? hf]

theorem opened_openAppend (h : t.openAppend path = (t', .ok id)) :
    Opened t' path id ∧ contents t' path = contents t path := by
  have ha := t.adds_openAppend path
  rw [h] at ha
  obtain ⟨b, -, hf, -⟩ := Tree.read_openAppend h
  exact ⟨⟨b, hf⟩, contents_adds ha⟩

theorem append_of_openAppend (h : t.openAppend path = (t', .ok id)) (bytes : Bytes) :
    append t path bytes = (t'.appendTo id bytes, true) := by
  rw [append, h]

theorem contents_append (h : t.Opens path) (bytes : Bytes) :
    contents (append t path bytes).1 path = contents t path ++ bytes := by
  obtain ⟨t', id, ho⟩ := h
  obtain ⟨hopened, hcontents⟩ := opened_openAppend ho
  rw [append_of_openAppend ho, ← hcontents]
  exact contents_appendTo hopened bytes

/-- A log that was opened once can be opened again. -/
theorem ready_append (h : t.Opens path) (bytes : Bytes) : (append t path bytes).1.Ready path := by
  obtain ⟨t', id, ho⟩ := h
  obtain ⟨b, hb⟩ := (opened_openAppend ho).1.appendTo id bytes
  rw [append_of_openAppend ho]
  refine (Tree.ready_openAppend ho).keeps (t'.keeps_appendTo id bytes) ?_
  rw [hb]
  exact nofun

theorem Opened.append (h : Opened t path id) (bytes : Bytes) :
    Opened (append t path bytes).1 path id := by
  have ha := t.adds_openAppend path
  rw [Log.append]
  split
  next i ho =>
    rw [ho] at ha
    exact (h.adds ha).appendTo i bytes
  next ho =>
    rw [ho] at ha
    exact h.adds ha

end Vigil.Fault.Log

namespace Vigil.Platform
open Fault
variable {p p₁ p' : Platform} {log : String} {b b' : Bytes} {i : Nat} {c : Capture} {fault : Fault}
  {touched : Place → Prop}

/-- Reports are the same where only something was recorded. -/
theorem Records.report (h : p.Records p') (fault : Fault) {c' : Capture}
    (hc : c'.registry = c.registry) : p'.report c' fault = p.report c fault := by
  rw [h, Platform.report, Platform.report, hc]
  rfl

/-! ### What goes on with a log -/

/-- All captures lead to a log; where a file was opened for one, it is the log's. -/
def AllTo (log : String) (p : Platform) : Prop :=
  ∀ c ∈ p.captures, c.logPath = log ∧ ∀ id, c.logFile = some id → Log.Opened p.files log id

/-- This was appended to a log, and captures lead to it as before. -/
structure Extends (log : String) (p : Platform) (b : Bytes) (p' : Platform) : Prop where
  place : ∀ path, p'.files.place path = p.files.place path
  contents : Log.contents p'.files log = Log.contents p.files log ++ b
  allTo : p.AllTo log → p'.AllTo log

namespace Extends

theorem trans (h : p.Extends log b p₁) (t : p₁.Extends log b' p') :
    p.Extends log (b ++ b') p' where
  place path := (t.place path).trans (h.place path)
  contents := by rw [t.contents, h.contents, List.append_assoc]
  allTo ha := t.allTo (h.allTo ha)

/-- What else there is does not matter. -/
theorem congr (h : p.Extends log b p₁) (hf : p'.files = p₁.files)
    (hc : p'.captures = p₁.captures) : p.Extends log b p' where
  place path := by rw [hf, h.place]
  contents := by rw [hf, h.contents]
  allTo ha := by
    rw [AllTo, hf, hc]
    exact h.allTo ha

/-- Something happens beside the log, and then something to it. -/
theorem after (h : p.Extends log [] p₁) (t : p₁.Extends log b p') : p.Extends log b p' :=
  h.trans t

/-- Other files are changed. -/
theorem keeps (hk : Tree.Keeps touched p.files p'.files) (hn : ¬ touched (p.files.place log))
    (hc : p'.captures = p.captures) : p.Extends log [] p' where
  place := hk.place
  contents := (Log.contents_keeps hk hn).trans (List.append_nil _).symm
  allTo ha c hm := by
    obtain ⟨hlog, hopened⟩ := ha c (hc ▸ hm)
    exact ⟨hlog, fun id hid => (hopened id hid).keeps hk hn⟩

/-- Empty files and directories are made where nothing was. -/
theorem adds (ha : Tree.Adds touched p.files p'.files) (hc : p'.captures = p.captures) :
    p.Extends log [] p' where
  place := ha.place
  contents := (Log.contents_adds ha).trans (List.append_nil _).symm
  allTo hall c hm := by
    obtain ⟨hlog, hopened⟩ := hall c (hc ▸ hm)
    exact ⟨hlog, fun id hid => (hopened id hid).adds ha⟩

theorem of_eq (hf : p'.files = p.files) (hc : p'.captures = p.captures) :
    p.Extends log [] p' := by
  have hk : Tree.Keeps (fun _ => False) p.files p'.files := hf ▸ .refl _
  exact .keeps hk id hc

theorem refl (log : String) (p : Platform) : p.Extends log [] p := .of_eq rfl rfl

/-- A capture is made that leads to the log. -/
theorem addCapture (p : Platform) (registry : Nat) (log : String) :
    p.Extends log [] (p.addCapture registry log) := by
  have ha := p.files.adds_openAppend log
  rw [Platform.addCapture, Capture.prepare]
  cases ho : p.files.openAppend log with
  | mk t opened =>
      rw [ho] at ha
      refine ⟨ha.place, (Log.contents_adds ha).trans (List.append_nil _).symm, fun hall c hm => ?_⟩
      rcases List.mem_append.1 hm with hm | hm
      · obtain ⟨hlog, hopened⟩ := hall c hm
        exact ⟨hlog, fun id hid => (hopened id hid).adds ha⟩
      · cases List.mem_singleton.1 hm
        refine ⟨rfl, fun id hid => ?_⟩
        cases opened with
        | error => cases hid
        | ok => cases hid; exact (Log.opened_openAppend ho).1

/-- A fault is recorded with a capture that leads to the log. -/
theorem record (hc : p.captures[i]? = some c) (hlog : c.logPath = log)
    (ho : p.files.Opens log) (fault : Fault) :
    p.Extends log (Text.encode (p.report c fault)) (p.record i fault).1 := by
  obtain ⟨hfiles, -, hcaptures⟩ := record_eq hc fault
  rw [hlog] at hfiles
  refine ⟨fun path => ?_, ?_, fun hall d hm => ?_⟩
  · rw [hfiles]
    exact Log.place_append _ _ _ path
  · rw [hfiles]
    exact Log.contents_append ho _
  · rw [hfiles]
    rw [hcaptures] at hm
    rcases List.mem_or_eq_of_mem_set hm with hm | rfl
    · obtain ⟨hlog, hopened⟩ := hall d hm
      exact ⟨hlog, fun id hid => (hopened id hid).append _⟩
    · obtain ⟨-, hopened⟩ := hall c (List.mem_of_getElem? hc)
      exact ⟨hlog, fun id hid => (hopened id hid).append _⟩

/-- A fault is recorded several times; a log that was opened once can be opened again. -/
theorem recordAll (hc : p.captures[i]? = some c) (hlog : c.logPath = log) (n : Nat)
    (ho : 0 < n → p.files.Opens log) (fault : Fault) :
    p.Extends log (List.replicate n (Text.encode (p.report c fault))).flatten
      (p.recordAll (List.replicate n i) fault) := by
  induction n generalizing p c with
  | zero => exact .refl log p
  | succ n ih =>
      have hopens := ho (Nat.succ_pos n)
      have hone := Extends.record hc hlog hopens fault
      have hc₁ : (p.record i fault).1.captures[i]? = some (counted 1 c) := by
        rw [captures_record, hc, if_pos rfl, Option.map_some]
      have hagain : (p.record i fault).1.files.Opens log := by
        rw [(record_eq hc fault).1, hlog]
        exact (Log.ready_append hopens _).opens
      have hsame : (p.record i fault).1.report (counted 1 c) fault = p.report c fault :=
        (Records.record p i fault).report fault rfl
      have hrest := ih hc₁ hlog fun _ => hagain
      rw [hsame] at hrest
      exact hone.trans hrest

/-- A signal is handled with a capture: the first one, if the log was opened beforehand, is
reported. -/
theorem recordSignal (hall : p.AllTo log) (hc : p.captures[i]? = some c) (fault : Fault) :
    p.Extends log
      (if c.logFile.isSome && !c.signalled then (p.written c fault true).bytes else [])
      (p.recordSignal i fault).1 := by
  have hmem := List.mem_of_getElem? hc
  -- The capture that has counted the signal leads where it did.
  have hset : ∀ d ∈ p.captures.set i c.signal, d ∈ p.captures ∨
      d.logPath = c.logPath ∧ d.logFile = c.logFile := fun d hm => by
    rcases List.mem_or_eq_of_mem_set hm with hm | rfl
    · exact Or.inl hm
    · exact Or.inr ⟨rfl, rfl⟩
  simp only [Platform.recordSignal, hc]
  cases hs : c.signalled with
  | true =>
      rw [if_pos rfl, Bool.not_true, Bool.and_false, if_neg Bool.false_ne_true]
      exact .refl log p
  | false =>
      rw [if_neg Bool.false_ne_true, Bool.not_false, Bool.and_true]
      cases hf : c.logFile with
      | none =>
          refine ⟨fun _ => rfl, (List.append_nil _).symm, fun _ d hm => ?_⟩
          rcases hset d hm with hm | ⟨hd, hdf⟩
          · exact hall d hm
          · refine ⟨hd.trans (hall c hmem).1, fun id hid => ?_⟩
            cases (hdf.trans hf).symm.trans hid
      | some file =>
          have hopened := (hall c hmem).2 file hf
          have hbytes : (p.written c fault true).bytes =
              Capture.signalBytes p.wall fault (p.statistics c.registry) := if_pos rfl
          rw [Option.isSome_some, if_pos rfl, hbytes]
          refine ⟨(p.files.keeps_appendTo file _).place, Log.contents_appendTo hopened _,
            fun _ d hm => ?_⟩
          rcases hset d hm with hm | ⟨hd, hdf⟩
          · exact ⟨(hall d hm).1, fun id hid => ((hall d hm).2 id hid).appendTo file _⟩
          · refine ⟨hd.trans (hall c hmem).1, fun id hid => ?_⟩
            exact ((hall c hmem).2 id (hdf ▸ hid)).appendTo file _

end Extends
end Vigil.Platform
