import Mathlib.Data.List.Induction
import Vigil.Proofs.Files.Spared
import Vigil.Proofs.Reporter.Lifecycle

/-!
# Reporter — a reporter in use

What a reporter does to the disk when it is installed and uninstalled, and what it remembers of it,
however it is used in between.

* `spares_install`, `spares_uninstall`: nothing that is there is changed but the marker.
* `paths_useAll`: the paths of a reporter stay.
* `prior_useAll`: a crash that it remembers was found by an installation of its own.
-/

namespace Vigil

namespace Marker

theorem spares_remove (t : Tree) (path : String) :
    Tree.Spares (t.place path) t (remove t path).1 := .of_keeps (keeps_remove t path)

theorem spares_write (t : Tree) (path : String) (m : Marker) :
    Tree.Spares (t.place path) t (write t path m).1 := by
  have hparents := t.adds_makeParents path
  rcases write_cases t path m with ⟨hw, -⟩ | ⟨hw, -⟩
  · rw [hw]
    exact hparents.spares _
  · have hfile := Tree.Spares.of_keeps (Tree.keeps_write hw)
    rw [hparents.place] at hfile
    exact (hparents.spares _).trans hfile

end Marker

namespace Reporter
variable {r r' : Reporter} {p p' : Platform}

/-! ### What it does to the disk -/

theorem spares_takePrior (r : Reporter) (p : Platform) :
    Tree.Spares (p.files.place r.markerPath) p.files (r.takePrior p).1.files := by
  rw [files_takePrior]
  split
  next => exact Marker.spares_remove _ _
  next => exact .refl _ _

theorem spares_leaveMarker (r : Reporter) (p : Platform) :
    Tree.Spares (p.files.place r.markerPath) p.files (r.leaveMarker p).files := by
  rw [(leaveMarker_eq r p).1]
  exact Marker.spares_write _ _ _

theorem spares_deleteMarker (r : Reporter) (kept : Error → Notice) (p : Platform) :
    Tree.Spares (p.files.place r.markerPath) p.files (r.deleteMarker kept p).files := by
  rw [(deleteMarker_eq r kept p).1]
  exact Marker.spares_remove _ _

/-- The files when the interceptors are armed, and still when they are disarmed again. -/
theorem adds_prepared (r : Reporter) (p : Platform) :
    Tree.Adds (fun _ => True) (r.leaveMarker (r.takePrior p).1).files (r.prepared p).files :=
  (Tree.adds_openAppend _ _).mono fun _ _ => trivial

/-- The marker of this session can be read by then, if it could be written. -/
theorem read_prepared
    (h : (Marker.write (r.takePrior p).1.files r.markerPath (r.ownMarker p)).2 = .ok ()) :
    (r.prepared p).files.read r.markerPath = .ok (r.ownMarker p).bytes := by
  obtain ⟨hfiles, -⟩ := leaveMarker_eq r (r.takePrior p).1
  rw [(takePrior_rest r p).2] at hfiles
  have hheld := Marker.holds_write h
  rw [← hfiles] at hheld
  exact (adds_prepared r p).read hheld

theorem spares_prepared (r : Reporter) (p : Platform) :
    Tree.Spares (p.files.place r.markerPath) p.files (r.prepared p).files := by
  have htaken := spares_takePrior r p
  have hleft := spares_leaveMarker r (r.takePrior p).1
  rw [Tree.Keeps.place htaken] at hleft
  exact (htaken.trans hleft).trans ((adds_prepared r p).spares _)

/-- An installation changes nothing that is there but the marker, whether it succeeds, is refused, or
has nothing to do. -/
theorem spares_install (r : Reporter) (p : Platform) :
    Tree.Spares (p.files.place r.markerPath) p.files (r.install p).2.1.files := by
  have hprepared := spares_prepared r p
  cases hc : r.capture with
  | some c =>
      rw [install_of_installed (by rw [hc]; rfl)]
      exact .refl _ _
  | none =>
      rcases h : r.install p with ⟨r', p', e | found⟩
      · obtain ⟨q, hq, rfl⟩ := refused_untouched h
        rw [← hq.1] at hprepared
        have hdeleted := spares_deleteMarker r .markerKeptAfterFailure q
        rw [Tree.Keeps.place hprepared] at hdeleted
        exact hprepared.trans hdeleted
      · rw [← (install_ok hc h).2.2.1] at hprepared
        exact hprepared

/-- Nor does an uninstallation. -/
theorem spares_uninstall (r : Reporter) (p : Platform) :
    Tree.Spares (p.files.place r.markerPath) p.files (r.uninstall p).2.files := by
  rw [uninstall]
  split
  next =>
    have hreleased : (r.release p).2.files = p.files :=
      (Interceptor.untouched_disarmAll r.interceptors p).1
    have hdeleted := spares_deleteMarker (r.release p).1 .markerKept (r.release p).2
    rw [hreleased] at hdeleted
    exact hdeleted
  next => exact .refl _ _

/-! ### What it is used for -/

/-- Something that a reporter is asked to do, on a platform on which anything may have happened
since the last time. -/
inductive Use where
  | install (p : Platform)
  | uninstall (p : Platform)
  | recordFault (fault : Fault) (p : Platform)

/-- What becomes of a reporter that is used. -/
def use (r : Reporter) : Use → Reporter
  | .install p => (r.install p).1
  | .uninstall p => (r.uninstall p).1
  | .recordFault fault p => (r.recordFault fault p).1

/-- What becomes of a reporter that is used again and again. -/
def useAll (r : Reporter) (us : List Use) : Reporter := us.foldl use r

theorem useAll_concat (r : Reporter) (us : List Use) (u : Use) :
    r.useAll (us ++ [u]) = (r.useAll us).use u := by
  rw [useAll, List.foldl_append]
  rfl

/-- An installation of a reporter that is not installed remembers what it found, be it refused or
not. -/
theorem prior_install (hn : r.capture = none) (p : Platform) :
    (r.install p).1 = { (r.install p).1 with
      markerPath := r.markerPath, logPath := r.logPath, prior := some (r.takePrior p).2 } := by
  rcases h : r.install p with ⟨r', p', found | found⟩
  · obtain ⟨_, _, _, _, _, _, _, _, _, _, rfl⟩ := install_error hn h
    rfl
  · obtain ⟨rfl, ⟨_, rfl⟩, -⟩ := install_ok hn h
    rfl

/-- What an installation returns is what the reporter then remembers. -/
theorem returned_install {found : Option PriorCrash} (h : (r.install p).2.2 = .ok found) :
    found = (r.install p).1.prior.getD none := by
  cases hc : r.capture with
  | none =>
      rcases hi : r.install p with ⟨r', p', result⟩
      rw [hi] at h
      obtain rfl : result = .ok found := h
      obtain ⟨-, ⟨_, rfl⟩, -⟩ := install_ok hc hi
      rfl
  | some c =>
      rw [install_of_installed (by rw [hc]; rfl)] at h ⊢
      exact (Except.ok.inj h).symm

/-- No use changes the paths; and only an installation of a reporter that is not installed changes
what it remembers. -/
theorem remembers_use (r : Reporter) (u : Use) :
    ((r.use u).markerPath = r.markerPath ∧ (r.use u).logPath = r.logPath) ∧
      ((r.use u).prior = r.prior ∨
        ∃ p, u = .install p ∧ (r.use u).prior = some (r.takePrior p).2) := by
  cases u with
  | install p =>
      rw [use]
      cases hc : r.capture with
      | none =>
          rw [prior_install hc p]
          exact ⟨⟨rfl, rfl⟩, Or.inr ⟨p, rfl, rfl⟩⟩
      | some c =>
          rw [install_of_installed (by rw [hc]; rfl)]
          exact ⟨⟨rfl, rfl⟩, Or.inl rfl⟩
  | uninstall p =>
      rw [use]
      cases hi : r.isInstalled with
      | false =>
          rw [uninstall_of_not_installed hi]
          exact ⟨⟨rfl, rfl⟩, Or.inl rfl⟩
      | true =>
          obtain ⟨_, heq⟩ := uninstall_eq (p := p) hi
          rw [heq]
          exact ⟨⟨rfl, rfl⟩, Or.inl rfl⟩
  | recordFault fault p =>
      rw [use, recordFault_eq]
      exact ⟨⟨rfl, rfl⟩, Or.inl rfl⟩

theorem paths_useAll (r : Reporter) (us : List Use) :
    (r.useAll us).markerPath = r.markerPath ∧ (r.useAll us).logPath = r.logPath := by
  induction us using List.reverseRecOn with
  | nil => exact ⟨rfl, rfl⟩
  | append_singleton us u ih =>
      obtain ⟨hmarker, hlog⟩ := (remembers_use (r.useAll us) u).1
      rw [useAll_concat, hmarker, hlog]
      exact ih

/-- A crash that a reporter remembers was found by one of its installations. -/
theorem prior_useAll {us : List Use} {crash : PriorCrash} (hnew : r.prior = none)
    (h : (r.useAll us).prior = some (some crash)) :
    ∃ p, .install p ∈ us ∧ (Marker.read p.files r.markerPath).1 = some crash.raw := by
  induction us using List.reverseRecOn with
  | nil => exact nomatch hnew.symm.trans h
  | append_singleton us u ih =>
      rw [useAll_concat] at h
      rcases (remembers_use (r.useAll us) u).2 with hsame | ⟨p, rfl, hfound⟩
      · obtain ⟨p, hp, hread⟩ := ih (hsame.symm.trans h)
        exact ⟨p, List.mem_append_left _ hp, hread⟩
      · have hcrash := (Option.some.inj (hfound.symm.trans h))
        rw [snd_takePrior, (paths_useAll r us).1] at hcrash
        obtain ⟨raw, hread, rfl⟩ := Option.map_eq_some_iff.1 hcrash
        exact ⟨p, List.mem_append_right _ (List.mem_singleton_self _), hread⟩

/-- A crash that is returned by a reporter that is installed already was found by an earlier
installation. -/
theorem read_of_reinstall {us : List Use} {q q' : Platform} {crash : PriorCrash}
    (hnew : r.prior = none) (hc : (r.useAll us).capture.isSome = true)
    (h : (r.useAll us).install q = (r', q', .ok (some crash))) :
    ∃ p, .install p ∈ us ∧ (Marker.read p.files r.markerPath).1 = some crash.raw := by
  have hgiven := returned_install (congrArg (·.2.2) h)
  rw [install_of_installed hc] at hgiven
  refine prior_useAll hnew ?_
  cases hp : (r.useAll us).prior with
  | none => rw [hp] at hgiven; cases hgiven
  | some found => rw [hp] at hgiven; exact congrArg some hgiven.symm

end Reporter
end Vigil
