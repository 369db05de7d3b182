import Vigil.Proofs.Files.Barred
import Vigil.Proofs.Reporter.Use
import Vigil.Status

/-!
# Marker — evidence and what is there

The store reads a marker, and takes every failure but a missing file for a marker that cannot be
read.  So evidence of a crash is found where nothing is, exactly if something is in the way of the
path of the marker.

* `isSome_read`: when a marker is found, on any disk.

**Evidence and what is there** (`evidence_of_presence`): the store, the status of earlier sessions,
and the installations of a reporter.
-/

namespace Vigil

/-! ### The store -/

namespace Marker
variable {t : Tree} {path : String}

theorem read_of_barred (h : t.BarredPath path) : (read t path).1 = some [] := by
  obtain ⟨f, hf, hno⟩ := Tree.resolve_failure.2 h
  have hread : t.read path = .error f := by
    rw [Tree.read, hf]
    rfl
  rw [read, hread]
  simp only [hno, Bool.false_eq_true, if_false]

/-- A marker is found where something is, and where something is in the way. -/
theorem isSome_read (wf : t.WellFormed) (path : String) :
    (read t path).1.isSome = true ↔ t.pathExists path = true ∨ t.BarredPath path := by
  by_cases hb : t.BarredPath path
  · rw [read_of_barred hb]
    exact iff_of_true rfl (Or.inr hb)
  rw [or_iff_left hb, read]
  cases hr : t.resolve path with
  | error f =>
      have hf : f.isNotFound = true := by
        rw [← Bool.not_eq_false]
        exact fun hno => hb (Tree.resolve_failure.1 ⟨f, hr, hno⟩)
      have hread : t.read path = .error f := by
        rw [Tree.read, hr]
        rfl
      have hexists : t.pathExists path = false := by
        rw [Tree.pathExists, hr]
        rfl
      rw [hread, hexists]
      simp only [hf, if_true]
      exact iff_of_false Bool.false_ne_true Bool.false_ne_true
  | ok p =>
      have hexists : t.pathExists path = true := by
        rw [Tree.pathExists, hr]
        rfl
      refine iff_of_true ?_ hexists
      obtain ⟨e, he⟩ := Option.isSome_iff_exists.1 (wf.isSome_of_resolve hr)
      cases e with
      | file id b =>
          rw [Tree.read_ok.2 ⟨p, id, hr, he⟩]
          rfl
      | directory =>
          have hread : t.read path = .error (.system .isADirectory) := by
            simp only [Tree.read, hr, bind, Except.bind, he]
          rw [hread]
          rfl

/-- A marker is found exactly where something is, unless something is in the way. -/
theorem isSome_read_eq_pathExists (wf : t.WellFormed) (path : String) :
    (read t path).1.isSome = t.pathExists path ↔ ¬ t.BarredPath path := by
  rw [Bool.eq_iff_iff, isSome_read wf]
  constructor
  · intro h hb
    have hexists := h.1 (Or.inr hb)
    rw [hb.pathExists] at hexists
    exact Bool.false_ne_true hexists
  · exact fun hb => or_iff_left hb

end Marker

/-! ### The status -/

/-- What the status says of the marker is what is read. -/
theorem Status.marker_collect {t : Tree} {c : Config} {s : Status} (h : (collect t c).1 = .ok s) :
    s.markerPresent = (Marker.read t c.markerPath).1.isSome ∧
      s.marker = (Marker.read t c.markerPath).1.bind Marker.parse? := by
  obtain ⟨_, _, h⟩ := Except.bind_ok.1 h
  cases h
  exact ⟨rfl, rfl⟩

/-! ### A tree with one file -/

namespace Tree

/-- A tree with one file, in the root directory. -/
def oneFile (name : String) (b : Bytes) : Tree :=
  { (Tree.new []).put [name] (.file 0 b) with nextId := 1 }

theorem find?_oneFile (name : String) (b : Bytes) :
    (oneFile name b).find? [name] = some (.file 0 b) :=
  (find?_put _ (List.cons_ne_nil _ _) _ _).trans (if_pos rfl)

theorem wellFormed_oneFile (name : String) (b : Bytes) : (oneFile name b).WellFormed := by
  have hnone : (Tree.new []).find? [name] ≠ some .directory := nofun
  refine (wellFormed_new []).put (q := []) rfl (Nat.zero_le 1) (fun h => absurd h hnone)
    fun id c h => ?_
  cases h
  refine ⟨Nat.one_pos, fun p c hp => ?_⟩
  rw [find?_new] at hp
  split at hp <;> cases hp

end Tree

/-! ### What evidence there is -/

namespace Marker

/-- **Evidence and what is there.**  On a disk, and for a path of the marker,
* the store reads a marker exactly where something is, if and only if nothing is in the way of the
  path; otherwise it reads an empty marker though nothing is there;
* if nothing is in the way, the status of earlier sessions says that there is a marker exactly where
  something is, and an installation returns a crash exactly then;
* a reporter that is installed already returns what an earlier installation found, whatever was done
  with it since it was new: a crash only if something was at the path then, or in the way. -/
theorem evidence_of_presence {t : Tree} (wf : t.WellFormed) (path : String) :
    ((read t path).1.isSome = t.pathExists path ↔ ¬ t.BarredPath path) ∧
      (t.BarredPath path → (read t path).1 = some [] ∧ t.pathExists path = false) ∧
      (¬ t.BarredPath path →
        (∀ (c : Config) (s : Status), c.markerPath = path → (Status.collect t c).1 = .ok s →
          s.markerPresent = t.pathExists path) ∧
        ∀ (r r' : Reporter) (p p' : Platform) (found : Option PriorCrash), r.markerPath = path →
          p.files = t → r.capture = none → r.install p = (r', p', .ok found) →
          found.isSome = t.pathExists path) ∧
      ∀ (r r' : Reporter) (us : List Reporter.Use) (q q' : Platform) (crash : PriorCrash),
        r.prior = none → r.markerPath = path → (r.useAll us).capture.isSome = true →
        (r.useAll us).install q = (r', q', .ok (some crash)) →
        ∃ p, .install p ∈ us ∧ (p.files.WellFormed →
          p.files.pathExists path = true ∨ p.files.BarredPath path) := by
  refine ⟨isSome_read_eq_pathExists wf path, fun hb => ⟨read_of_barred hb, hb.pathExists⟩,
    fun hb => ⟨?_, ?_⟩, ?_⟩
  · rintro c s rfl h
    rw [(Status.marker_collect h).1]
    exact (isSome_read_eq_pathExists wf _).2 hb
  · rintro r r' p p' found rfl rfl hc h
    rw [(Reporter.install_ok hc h).1, Reporter.snd_takePrior, Option.isSome_map]
    exact (isSome_read_eq_pathExists wf _).2 hb
  · rintro r r' us q q' crash hnew rfl hc h
    obtain ⟨p, hp, hread⟩ := Reporter.read_of_reinstall hnew hc h
    refine ⟨p, hp, fun wf => (isSome_read wf _).1 ?_⟩
    rw [hread]
    rfl

/-- A directory is at the path of the marker: it counts as a marker that cannot be read. -/
theorem evidence_of_directory :
    let t := Tree.new ["tmp"]
    let r := Reporter.new "/tmp" "crash.log" "1" 0 []
    let p := Platform.new t 0 ⟨0, 0, by decide⟩ 1 "" ""
    let c : Config := { dataDir := "/", crash := { markerFile := "tmp" } }
    t.WellFormed ∧ ¬ t.BarredPath "/tmp" ∧ (read t "/tmp").1.isSome = true ∧
      t.pathExists "/tmp" = true ∧ (∃ r' p', r.install p = (r', p', .ok (some ⟨[], none⟩))) ∧
      ∃ s, (Status.collect t c).1 = .ok s ∧ s.markerPresent = true := by
  intro t r p c
  have wf : t.WellFormed := Tree.wellFormed_new _
  have horigin : t.origin "/tmp" = .ok [] := by
    rw [Tree.origin, if_neg (by simp), if_neg (by decide), if_neg (by decide), if_pos (by decide)]
  have hresolve : t.resolve "/tmp" = .ok ["tmp"] := by
    rw [Tree.resolve_eq, horigin, (by decide : Path.names "/tmp" = ["tmp"]),
      (by decide : Path.endsInSlash "/tmp" = false)]
    rfl
  have hb : ¬ t.BarredPath "/tmp" := fun h => by
    obtain ⟨f, hf, -⟩ := Tree.resolve_failure.2 h
    cases hresolve.symm.trans hf
  have hread : (read t "/tmp").1 = some [] := by
    have hfails : t.read "/tmp" = .error (.system .isADirectory) := by
      rw [Tree.read, hresolve]
      rfl
    rw [read, hfails]
    rfl
  obtain ⟨r', p', hi⟩ := Reporter.install_of_arms (r := r) (p := p) rfl rfl
  have hi' : r.install p = (r', p', .ok (some ⟨[], none⟩)) := by
    rw [hi, Reporter.snd_takePrior]
    exact congrArg (fun raw : Option (List Char) => (r', p', Except.ok
      (raw.map fun raw => PriorCrash.mk raw (parse? raw)))) hread
  have hmarker : c.markerPath = "/tmp" := by decide
  have hlog : Fault.Log.read t c.logPath = .ok [] := by
    rw [(by decide : c.logPath = "/crash.log")]
    exact (Fault.Log.empty_log rfl).1
  obtain ⟨s, hs⟩ : ∃ s, (Status.collect t c).1 = .ok s := by
    rw [Status.collect, hlog]
    exact ⟨_, rfl⟩
  obtain ⟨hstore, -, hnone, -⟩ := evidence_of_presence wf "/tmp"
  obtain ⟨hstatus, hinstall⟩ := hnone hb
  have hexists := (hinstall r r' p p' _ rfl rfl rfl hi').symm
  exact ⟨wf, hb, (hstore.2 hb).trans hexists, hexists, ⟨r', p', hi'⟩, s, hs,
    (hstatus c s hmarker hs).trans hexists⟩

/-- A file is where a directory is needed: there is no marker, and a crash is reported. -/
theorem evidence_of_nothing :
    let t := Tree.oneFile "data" [120]
    let r := Reporter.new "data/session.marker" "crash.log" "1" 0 []
    let p := Platform.new t 0 ⟨0, 0, by decide⟩ 1 "" ""
    t.WellFormed ∧ t.pathExists r.markerPath = false ∧ (read t r.markerPath).1 = some [] ∧
      (r.install p).2.2 = .ok (some ⟨[], none⟩) := by
  intro t r p
  have hb : t.BarredPath r.markerPath := by
    refine Or.inr (Or.inr ?_)
    rw [(by decide : Path.names r.markerPath = ["data", "session.marker"]),
      (by decide : Path.start t.workingDirectory r.markerPath = [])]
    exact .further rfl (.file (Tree.find?_oneFile _ _) (Or.inl (List.cons_ne_nil _ _)))
  have hfound : (r.takePrior p).2 = some ⟨[], none⟩ := by
    rw [Reporter.snd_takePrior]
    exact congrArg (Option.map fun raw => PriorCrash.mk raw (parse? raw)) (read_of_barred hb)
  refine ⟨Tree.wellFormed_oneFile _ _, hb.pathExists, read_of_barred hb, ?_⟩
  rw [Reporter.install_eq rfl]
  exact congrArg Except.ok hfound

end Marker
end Vigil
