import Vigil.Config.Load
import Vigil.Proofs.Fault.Contents
import Vigil.Proofs.Files.Plain
import Vigil.Proofs.Marker.Presence

/-!
# Config — the marker and the log

A configuration is refused if its marker and its log have one name.  Plain names lead to different
files then; names that are spelled in other ways can lead to one and the same, and the marker then
takes the place of the log (`log_destroyed`).

* `place_ne_of_plain`: where plain names lead.
* `Marker.read_put`: what is read as the marker does not depend on what another file holds.

**The log is spared** (`log_spared`): where the two lead to different places, no reporter touches
the log when it is installed or uninstalled, or takes it for a marker.
-/

namespace Vigil

/-! ### Where the names lead -/

namespace Config
variable {c : Config}

theorem names_ne (h : c.validate = .ok c) : c.crash.markerFile ≠ c.crash.logFile := by
  have hproblem : c.problem? = none := by
    rw [validate] at h
    split at h
    next hp => exact hp
    next => cases h
  rw [problem?] at hproblem
  repeat' split at hproblem
  all_goals try cases hproblem
  next hne => exact hne

/-- Plain names lead to different places. -/
theorem place_ne_of_plain (h : c.validate = .ok c) (hm : Path.Plain c.crash.markerFile)
    (hl : Path.Plain c.crash.logFile) (wd : Place) :
    Path.place wd c.markerPath ≠ Path.place wd c.logPath :=
  fun heq => names_ne h (hm.eq_of_place hl heq)

end Config

/-! ### What is read as the marker -/

/-- It does not depend on what another file holds. -/
theorem Marker.read_put {t : Tree} {q : Place} {id : Nat} {b : Bytes} {path : String}
    (hf : t.find? q = some (.file id b)) (hne : t.place path ≠ q) (b' : Bytes) :
    read (t.put q (.file id b')) path = read t path := by
  have hq : q ≠ [] := fun h => by
    rw [h] at hf
    cases hf
  have hsame : (t.put q (.file id b')).find? (t.place path) = t.find? (t.place path) :=
    (t.find?_put hq _ _).trans (if_neg hne)
  rw [read, read, (Tree.sameShape_put hf b').read hsame]

/-- What an installation remembers follows from what is read as the marker. -/
theorem Reporter.prior_congr {r : Reporter} {p q : Platform}
    (h : Marker.read q.files r.markerPath = Marker.read p.files r.markerPath) :
    (r.install q).1.prior = (r.install p).1.prior := by
  cases hc : r.capture with
  | none =>
      rw [prior_install hc q, prior_install hc p]
      dsimp only
      rw [snd_takePrior, snd_takePrior, h]
  | some c =>
      have hi : r.capture.isSome = true := by rw [hc]; rfl
      rw [install_of_installed hi, install_of_installed hi]

namespace Config

/-- **The log is spared.**  A configuration is accepted whose names for the marker and the log are
plain, or lead to different places in any case; and there is a log.  Then
* the two lead to different places;
* no installation and no uninstallation of its reporter changes the log, whatever was done with the
  reporter before;
* whatever the log holds, an installation finds and returns the same of an earlier session, and the
  status says the same of the marker. -/
theorem log_spared {c : Config} (hv : c.validate = .ok c) {p : Platform}
    (hnames : Path.Plain c.crash.markerFile ∧ Path.Plain c.crash.logFile ∨
      p.files.place c.markerPath ≠ p.files.place c.logPath)
    (registry : Nat) (interceptors : List Interceptor) (us : List Reporter.Use) {id : Nat}
    {b : Bytes} (hlog : p.files.find? (p.files.place c.logPath) = some (.file id b)) :
    let r := (Reporter.new c.markerPath c.logPath c.version registry interceptors).useAll us
    p.files.place c.markerPath ≠ p.files.place c.logPath ∧
      (r.install p).2.1.files.find? (p.files.place c.logPath) = some (.file id b) ∧
      (r.uninstall p).2.files.find? (p.files.place c.logPath) = some (.file id b) ∧
      ∀ b' : Bytes,
        let q := { p with files := p.files.put (p.files.place c.logPath) (.file id b') }
        (r.install q).1.prior = (r.install p).1.prior ∧
          (∀ found found', (r.install p).2.2 = .ok found → (r.install q).2.2 = .ok found' →
            found' = found) ∧
          ∀ s s', (Status.collect p.files c).1 = .ok s → (Status.collect q.files c).1 = .ok s' →
            s'.markerPresent = s.markerPresent ∧ s'.marker = s.marker := by
  intro r
  have hne : p.files.place c.markerPath ≠ p.files.place c.logPath :=
    hnames.elim (fun ⟨hm, hl⟩ => place_ne_of_plain hv hm hl _) fun h => h
  have hmarker : r.markerPath = c.markerPath := (Reporter.paths_useAll _ us).1
  have hinstall := Reporter.spares_install r p
  have huninstall := Reporter.spares_uninstall r p
  rw [hmarker] at hinstall huninstall
  refine ⟨hne, hinstall.find? hne.symm hlog, huninstall.find? hne.symm hlog, fun b' => ?_⟩
  have hread := Marker.read_put hlog hne b'
  have hprior := Reporter.prior_congr (r := r) (p := p)
    (q := { p with files := p.files.put (p.files.place c.logPath) (.file id b') })
    (by rw [hmarker]; exact hread)
  refine ⟨hprior, fun found found' h h' => ?_, fun s s' h h' => ?_⟩
  · rw [Reporter.returned_install h, Reporter.returned_install h', hprior]
  · obtain ⟨hpresent, hparsed⟩ := Status.marker_collect h
    obtain ⟨hpresent', hparsed'⟩ := Status.marker_collect h'
    rw [hpresent, hpresent', hparsed, hparsed', hread]
    exact ⟨rfl, rfl⟩

/-- With the names that it has by itself, the first installation of a reporter. -/
theorem log_spared_default :
    let c : Config := { dataDir := "/" }
    let t := Tree.oneFile "crash.log" [98]
    let p := Platform.new t 0 ⟨0, 0, by decide⟩ 7 "" ""
    let r := Reporter.new c.markerPath c.logPath c.version 0 []
    c.validate = .ok c ∧ Path.Plain c.crash.markerFile ∧ Path.Plain c.crash.logFile ∧
      t.place c.markerPath ≠ t.place c.logPath ∧
      (r.install p).2.1.files.find? (t.place c.logPath) = some (.file 0 [98]) := by
  intro c t p r
  have hv : c.validate = .ok c := rfl
  have hm : Path.Plain c.crash.markerFile := by decide
  have hl : Path.Plain c.crash.logFile := by decide
  have hlog : t.find? (t.place c.logPath) = some (.file 0 [98]) := by
    rw [(by decide : c.logPath = "/crash.log"), Tree.place_log]
    exact Tree.find?_oneFile _ _
  obtain ⟨hne, hinstall, -⟩ := log_spared (p := p) hv (Or.inl ⟨hm, hl⟩) 0 [] [] hlog
  exact ⟨hv, hm, hl, hne, hinstall⟩

/-- A log in the root directory is read. -/
theorem read_oneFile (b : Bytes) : (Tree.oneFile "crash.log" b).read "/crash.log" = .ok b := by
  have hfile := Tree.find?_oneFile "crash.log" b
  have hstep : (Tree.oneFile "crash.log" b).step [] "crash.log" = .ok ["crash.log"] :=
    Tree.step_ok.2 ⟨rfl, by decide, fun _ _ => ⟨by decide, by rw [hfile]; rfl⟩⟩
  refine Tree.read_ok.2 ⟨["crash.log"], 0, Tree.resolve_ok.2 ⟨[], Tree.origin_log _, ?_, ?_⟩, hfile⟩
  · rw [(by decide : Path.names "/crash.log" = ["crash.log"]), List.foldlM_cons, hstep]
    rfl
  · exact fun h => absurd h (by decide)

/-- The log is spelled as the marker is, but for a `.`, and the configuration is accepted.  The first
installation then takes the log for a marker, and puts its own in the place. -/
theorem log_destroyed :
    let c : Config :=
      { dataDir := "/", crash := { markerFile := "crash.log", logFile := "./crash.log" } }
    let t := Tree.oneFile "crash.log" [98]
    let p := Platform.new t 0 ⟨0, 0, by decide⟩ 7 "" ""
    let r := Reporter.new c.markerPath c.logPath c.version 0 []
    c.validate = .ok c ∧ t.WellFormed ∧ t.place c.markerPath = t.place c.logPath ∧
      Fault.Log.contents t c.logPath = [98] ∧
      ∃ r' p', r.install p = (r', p', .ok (some ⟨['b'], none⟩)) ∧
        Fault.Log.contents p'.files c.logPath = (r.ownMarker p).bytes := by
  intro c t p r
  have hmarker : r.markerPath = "/crash.log" := (by decide : c.markerPath = "/crash.log")
  have hplace : ∀ t : Tree, t.place c.logPath = ["crash.log"] := fun t => by
    rw [(by decide : c.logPath = "/./crash.log"), Tree.place, Path.place, Path.start,
      (by decide : Path.isAbsolute "/./crash.log" = true),
      (by decide : Path.names "/./crash.log" = [".", "crash.log"])]
    rfl
  have wf : t.WellFormed := Tree.wellFormed_oneFile _ _
  have hread : p.files.read "/crash.log" = .ok [98] := read_oneFile _
  have hfound : Marker.read p.files "/crash.log" = (some ['b'], []) := by
    rw [Marker.read, hread]
    rfl
  -- The log is deleted, and then the marker can be written in its place.
  have hgone : (r.takePrior p).1.files.find? ["crash.log"] = none := by
    rw [r.files_takePrior, hmarker, hfound]
    have hheld : (Marker.remove t "/crash.log").1.Holds "/crash.log" none :=
      Marker.holds_remove (e := some [98]) hread wf
    rwa [Tree.Holds, Tree.place_log] at hheld
  obtain ⟨r', p', hi⟩ := Reporter.install_of_arms (r := r) (p := p) rfl rfl
  obtain ⟨-, -, huntouched⟩ := Reporter.install_ok rfl hi
  have hwritten : p'.files.read "/crash.log" = .ok (r.ownMarker p).bytes := by
    have hread := Reporter.read_prepared (r := r) (p := p) (by
      rw [hmarker]
      exact Marker.write_of_resolveParent (Tree.resolveParent_log _) (by decide)
        (by rw [List.nil_append, hgone]; exact (Option.some_ne_none _).symm) _)
    rwa [hmarker, ← huntouched.1] at hread
  refine ⟨rfl, wf, ?_, ?_, r', p', ?_, ?_⟩
  · exact (congrArg t.place hmarker).trans ((t.place_log).trans (hplace t).symm)
  · exact Fault.Log.contents_of_find? ((congrArg t.find? (hplace t)).trans (Tree.find?_oneFile _ _))
  · rw [hi, r.snd_takePrior, hmarker, hfound]
    rfl
  · obtain ⟨q, id, hresolve, hfile⟩ := Tree.read_ok.1 hwritten
    rw [Tree.place_of_resolve hresolve, Tree.place_log, ← hplace p'.files] at hfile
    exact Fault.Log.contents_of_find? hfile

end Config
end Vigil
