import Vigil.Proofs.Reporter.Evidence

/-!
# Reporter — what the operations do

What installing, uninstalling and recording do to a reporter, and to the evidence at the path of
its marker.

* `install_of_installed`, `uninstall_of_not_installed`: the operations that change nothing.
* `install_ok`, `guarded_install`, `found_install`: an installation that succeeds returns what was
  at the path of the marker, and leaves the marker of its own session there.
* `guarded_uninstall`: an uninstallation leaves nothing there.
* `guarded_recordFault`, `guarded_drop`: other operations leave the evidence alone.
-/

namespace Vigil

/-- What an installation says of a marker file with these contents. -/
def PriorCrash.ofBytes (b : Bytes) : PriorCrash :=
  ⟨Text.decodeLossy b, Marker.parse? (Text.decodeLossy b)⟩

/-- The marker file of a session. -/
def Marker.bytes (m : Marker) : Bytes := Text.encode m.toText

namespace Reporter
variable {r r' : Reporter} {p p' : Platform} {found : Option PriorCrash} {wd : Place}
  {e : Option Bytes}

/-! ### Operations that change nothing -/

/-- Installing a reporter that is installed only logs that, and repeats the result. -/
theorem install_of_installed (h : r.capture.isSome = true) :
    r.install p = (r, p.note [.alreadyInstalled r.stored.name], .ok (r.prior.getD none)) := by
  rw [install, if_pos h]

theorem uninstall_of_not_installed (h : r.isInstalled = false) : r.uninstall p = (r, p) := by
  rw [uninstall, if_neg (by rw [h]; exact Bool.false_ne_true)]

/-- A reporter that is installed is armed, or has seen a fault. -/
theorem isInstalled_iff_state (r : Reporter) (p : Platform) :
    r.isInstalled = true ↔ r.state p = .armed ∨ r.state p = .faulted := by
  rw [isInstalled, state]
  cases r.stored <;> cases r.capture <;> simp
  exact Decidable.em _

/-! ### Installing -/

/-- The number of the capture that an installation makes. -/
def nextCapture (r : Reporter) (p : Platform) : Nat :=
  (r.leaveMarker (r.takePrior p).1).captures.length

/-- The platform on which an installation arms the interceptors. -/
def prepared (r : Reporter) (p : Platform) : Platform :=
  (r.leaveMarker (r.takePrior p).1).addCapture r.registry r.logPath

theorem install_eq (hn : r.capture = none) :
    r.install p =
      match Interceptor.armAll (r.nextCapture p) r.interceptors (r.prepared p) with
      | (interceptors, p', n, some refusal) =>
        let (r, p) := { r with interceptors, prior := some (r.takePrior p).2 }.rollBack n
          (p'.note [.armFailed refusal.interceptor refusal.error])
        (r, p, .error refusal.error)
      | (interceptors, p', _, none) =>
        ({ r with
            interceptors, stored := .armed
            capture := some (r.nextCapture p), prior := some (r.takePrior p).2 },
          p', .ok (r.takePrior p).2) := by
  rw [install, if_neg (by rw [hn]; exact Bool.false_ne_true)]
  rcases harm : Interceptor.armAll (r.nextCapture p) r.interceptors (r.prepared p) with
    ⟨interceptors, p', n, refusal⟩
  -- What is left and prepared does not depend on the result that is kept by then.
  have hsame : ∀ r₁ : Reporter, r₁ = { r with prior := some (r.takePrior p).2 } →
      Interceptor.armAll (r₁.leaveMarker (r.takePrior p).1).captures.length r₁.interceptors
        ((r₁.leaveMarker (r.takePrior p).1).addCapture r₁.registry r₁.logPath) =
      (interceptors, p', n, refusal) := fun r₁ hr₁ => by
    subst hr₁
    exact harm
  simp only [hsame _ rfl]
  cases refusal <;> rfl

/-- An installation that succeeds: what it returns, and the reporter afterwards. -/
theorem install_ok (hn : r.capture = none) (h : r.install p = (r', p', .ok found)) :
    found = (r.takePrior p).2 ∧
      (∃ interceptors, r' = { r with
        interceptors, stored := .armed
        capture := some (r.nextCapture p), prior := some found }) ∧
      Interceptor.Untouched (r.prepared p) p' := by
  have hun := Interceptor.untouched_armAll (r.nextCapture p) r.interceptors (r.prepared p)
  rw [install_eq hn] at h
  split at h
  next => cases h
  next harm =>
    rw [harm] at hun
    cases h
    exact ⟨rfl, ⟨_, rfl⟩, hun⟩

/-- It leaves the reporter installed. -/
theorem isInstalled_install (hn : r.capture = none) (h : r.install p = (r', p', .ok found)) :
    r'.isInstalled = true := by
  obtain ⟨_, rfl⟩ := (install_ok hn h).2.1
  rfl

/-- One of its interceptors refuses to be armed by an installation. -/
abbrev Halt (r : Reporter) (p : Platform) :=
  Interceptor.Halt (r.nextCapture p) r.interceptors (r.prepared p)

/-- The interceptors that were armed are disarmed, and the marker is deleted. -/
theorem install_of_halt (hn : r.capture = none) (x : r.Halt p) :
    r.install p =
      ({ r with
          interceptors := x.undone.1 ++ x.after :: x.back, prior := some (r.takePrior p).2 },
        r.deleteMarker .markerKeptAfterFailure x.undone.2, .error x.error) := by
  rw [install_eq hn, x.armAll]
  simp only [rollBack, List.take_left' x.length_armed, List.drop_left' x.length_armed]
  rfl

/-- An installation that is refused. -/
theorem install_error {f : Error} (hn : r.capture = none) (h : r.install p = (r', p', .error f)) :
    ∃ x : r.Halt p, x.error = f ∧ p' = r.deleteMarker .markerKeptAfterFailure x.undone.2 ∧
      r' = { r with
        interceptors := x.undone.1 ++ x.after :: x.back, prior := some (r.takePrior p).2 } := by
  have hhalt : Nonempty (r.Halt p) := by
    rw [install_eq hn] at h
    split at h
    next harm => exact Interceptor.exists_halt harm
    next => cases h
  obtain ⟨x⟩ := hhalt
  cases h.symm.trans (install_of_halt hn x)
  exact ⟨x, rfl, rfl, rfl⟩

/-- A reporter that is installed is never refused. -/
theorem capture_of_refused {f : Error} (h : r.install p = (r', p', .error f)) :
    r.capture = none := by
  refine Option.eq_none_iff_forall_ne_some.2 fun c hc => ?_
  rw [install_of_installed (by rw [hc]; rfl)] at h
  cases h

/-- An installation that is refused only changes the interceptors, and what was found. -/
theorem refused_eq {f : Error} (h : r.install p = (r', p', .error f)) :
    r' = { r with interceptors := r'.interceptors, prior := r'.prior } := by
  obtain ⟨x, -, -, rfl⟩ := install_error (capture_of_refused h) h
  rfl

/-- What an installation does before it arms the interceptors is all that is left of it on the
platform, but for the marker. -/
theorem refused_untouched {f : Error} (h : r.install p = (r', p', .error f)) :
    ∃ q, Interceptor.Untouched (r.prepared p) q ∧
      p' = r.deleteMarker .markerKeptAfterFailure q := by
  obtain ⟨x, -, rfl, -⟩ := install_error (capture_of_refused h) h
  have hup := Interceptor.untouched_armAll (r.nextCapture p) r.interceptors (r.prepared p)
  have hdown := Interceptor.untouched_disarmAll x.armed
    (x.left.note [.armFailed x.after.name x.error])
  rw [x.armAll] at hup
  exact ⟨x.undone.2, hup.trans hdown, rfl⟩

/-- No interceptor refuses to be armed. -/
def Arms (r : Reporter) (p : Platform) : Prop :=
  (Interceptor.armAll (r.nextCapture p) r.interceptors (r.prepared p)).2.2.2 = none

theorem install_of_arms (hn : r.capture = none) (h : r.Arms p) :
    ∃ r' p', r.install p = (r', p', .ok (r.takePrior p).2) := by
  rw [Arms] at h
  rw [install_eq hn]
  split
  next harm =>
    rw [harm] at h
    cases h
  next => exact ⟨_, _, rfl⟩

/-- The file operations of an installation succeed: the marker can be read, if it is there, and
written. -/
structure FilesWork (r : Reporter) (p : Platform) : Prop where
  read : ∀ f, p.files.read r.markerPath = .error f → f.isNotFound = true
  write : (Marker.write (r.takePrior p).1.files r.markerPath (r.ownMarker p)).2 = .ok ()

/-- They do not depend on what the reporter has been through. -/
theorem FilesWork.congr (h : r.FilesWork p) (hm : r'.markerPath = r.markerPath)
    (hv : r'.version = r.version) : r'.FilesWork p := by
  obtain ⟨hread, hwrite⟩ := h
  cases r
  cases r'
  cases hm
  cases hv
  exact ⟨hread, hwrite⟩

theorem snd_takePrior (r : Reporter) (p : Platform) :
    (r.takePrior p).2 =
      (Marker.read p.files r.markerPath).1.map fun raw => ⟨raw, Marker.parse? raw⟩ := by
  rw [takePrior]
  split
  next h => rw [h]; rfl
  next h =>
    rw [h]
    dsimp only [Platform.note]
    split <;> rfl

theorem files_takePrior (r : Reporter) (p : Platform) :
    (r.takePrior p).1.files =
      match (Marker.read p.files r.markerPath).1 with
      | some _ => (Marker.remove p.files r.markerPath).1
      | none => p.files := by
  rw [takePrior]
  split
  next h => rw [h]; rfl
  next h =>
    rw [h]
    dsimp only [Platform.note]
    split
    next hr => rw [hr]
    next hr => rw [hr]

/-- Only files are changed, and events logged. -/
theorem takePrior_rest (r : Reporter) (p : Platform) :
    (r.takePrior p).1.captures = p.captures ∧
      r.ownMarker (r.takePrior p).1 = r.ownMarker p := by
  rw [takePrior]
  split
  next => exact ⟨rfl, rfl⟩
  next =>
    dsimp only [Platform.note]
    split <;> exact ⟨rfl, rfl⟩

/-- The marker of an earlier session is returned, and is gone then. -/
theorem guarded_takePrior (h : p.Guarded wd r.markerPath e)
    (hr : ∀ f, p.files.read r.markerPath = .error f → f.isNotFound = true) :
    (r.takePrior p).1.Guarded wd r.markerPath none ∧
      (r.takePrior p).2 = e.map PriorCrash.ofBytes := by
  have hread := Marker.fst_read h.holds hr
  have hfiles := files_takePrior r p
  have hcaptures := (takePrior_rest r p).1
  rw [snd_takePrior, hread]
  rw [hread] at hfiles
  cases e with
  | none => exact ⟨h.untouched ⟨hfiles, hcaptures⟩, rfl⟩
  | some b =>
      replace hfiles : (r.takePrior p).1.files = (Marker.remove p.files r.markerPath).1 := hfiles
      exact ⟨h.removed hfiles hcaptures, rfl⟩

theorem leaveMarker_eq (r : Reporter) (p : Platform) :
    (r.leaveMarker p).files = (Marker.write p.files r.markerPath (r.ownMarker p)).1 ∧
      (r.leaveMarker p).captures = p.captures := by
  rw [leaveMarker]
  split
  next h => exact ⟨by rw [h], rfl⟩
  next h => exact ⟨by rw [h]; rfl, rfl⟩

theorem guarded_leaveMarker (h : p.Guarded wd r.markerPath e)
    (hw : (Marker.write p.files r.markerPath (r.ownMarker p)).2 = .ok ()) :
    (r.leaveMarker p).Guarded wd r.markerPath (some (r.ownMarker p).bytes) := by
  obtain ⟨hfiles, hcaptures⟩ := leaveMarker_eq r p
  have hk := Marker.keeps_write p.files r.markerPath (r.ownMarker p)
  have hh := Marker.holds_write hw
  rw [← hfiles] at hk hh
  exact h.refiled hk hh hcaptures

/-- The path is a name in the root directory, if that is the working directory. -/
structure InRoot (path name : String) : Prop where
  origin : ∀ t : Tree, t.workingDirectory = [] → t.origin path = .ok []
  names : Path.names path = [name]
  ne_dot : name ≠ "."
  ne_dots : name ≠ ".."
  short : name.utf8ByteSize ≤ Tree.maxName
  slash : Path.endsInSlash path = false

namespace InRoot
variable {path name : String} {t : Tree} (h : InRoot path name) (hwd : t.workingDirectory = [])
include h hwd

theorem resolveParent : t.resolveParent path = .ok ([], .name name false) :=
  Tree.resolveParent_ok.2
    ⟨[], [], h.origin t hwd, h.names, rfl, rfl, h.ne_dot, h.ne_dots, h.slash.symm⟩

theorem find? (hn : t.Holds path none) : t.find? [name] = none := by
  rwa [Tree.Holds, Tree.place_of_resolveParent (h.resolveParent hwd)] at hn

/-- A marker that is missing is not found there. -/
theorem read (hn : t.Holds path none) : t.read path = .error (.system .notFound) :=
  Tree.read_of_missing (h.origin t hwd) rfl h.names h.ne_dot h.ne_dots h.short (h.find? hwd hn)

/-- It can be written. -/
theorem write (hn : t.Holds path none) (m : Marker) : (Marker.write t path m).2 = .ok () := by
  refine Marker.write_of_resolveParent (h.resolveParent hwd) h.short ?_ m
  rw [List.nil_append, h.find? hwd hn]
  exact nofun

end InRoot

/-- So a session can be installed with its marker there. -/
theorem InRoot.filesWork {name : String} (h : InRoot r.markerPath name)
    (hg : p.Guarded [] r.markerPath e) : r.FilesWork p := by
  have hread : ∀ f, p.files.read r.markerPath = .error f → f.isNotFound = true := by
    intro f hf
    cases e with
    | some b => cases (show p.files.read r.markerPath = .ok b from hg.holds).symm.trans hf
    | none =>
        cases (h.read hg.workingDirectory hg.holds).symm.trans hf
        rfl
  have htaken := (guarded_takePrior hg hread).1
  exact ⟨hread, h.write htaken.workingDirectory htaken.holds _⟩

/-- An installation that succeeds returns what was at the path of the marker. -/
theorem found_install (hn : r.capture = none) (h : r.install p = (r', p', .ok found))
    (hg : p.Guarded wd r.markerPath e) (hf : r.FilesWork p) :
    found = e.map PriorCrash.ofBytes :=
  (install_ok hn h).1.trans (guarded_takePrior hg hf.read).2

/-- It leaves the marker of its own session. -/
theorem guarded_install (hn : r.capture = none) (h : r.install p = (r', p', .ok found))
    (hg : p.Guarded wd r.markerPath e) (hf : r.FilesWork p)
    (ha : Path.Apart wd r.markerPath r.logPath) :
    p'.Guarded wd r.markerPath (some (r.ownMarker p).bytes) := by
  have htaken := (guarded_takePrior hg hf.read).1
  have hown := (takePrior_rest r p).2
  have hleft := guarded_leaveMarker htaken (by rw [hown]; exact hf.write)
  rw [hown] at hleft
  exact (hleft.addCapture ha r.registry).untouched (install_ok hn h).2.2

/-! ### Uninstalling -/

theorem deleteMarker_eq (r : Reporter) (kept : Error → Notice) (p : Platform) :
    (r.deleteMarker kept p).files = (Marker.remove p.files r.markerPath).1 ∧
      (r.deleteMarker kept p).captures = p.captures := by
  rw [deleteMarker]
  split
  next h => exact ⟨by rw [h], rfl⟩
  next h => exact ⟨by rw [h]; rfl, rfl⟩

theorem guarded_deleteMarker (h : p.Guarded wd r.markerPath e) (kept : Error → Notice) :
    (r.deleteMarker kept p).Guarded wd r.markerPath none := by
  obtain ⟨hfiles, hcaptures⟩ := deleteMarker_eq r kept p
  exact h.removed hfiles hcaptures

/-- After an uninstallation the reporter is not installed. -/
theorem uninstall_eq (h : r.isInstalled = true) :
    ∃ interceptors, (r.uninstall p).1 =
        { r with interceptors, capture := none, stored := .uninstalled } := by
  rw [uninstall, if_pos h]
  exact ⟨_, rfl⟩

/-- An uninstallation leaves nothing at the path of the marker. -/
theorem guarded_uninstall (h : r.isInstalled = true) (hg : p.Guarded wd r.markerPath e) :
    (r.uninstall p).2.Guarded wd r.markerPath none := by
  have hreleased : (r.release p).2.Guarded wd r.markerPath e :=
    hg.untouched (Interceptor.untouched_disarmAll r.interceptors p)
  rw [uninstall, if_pos h]
  exact guarded_deleteMarker hreleased .markerKept

/-! ### Other operations -/

/-- A fault is recorded where it does not touch the evidence. -/
theorem guarded_recordFault {marker : String} (hg : p.Guarded wd marker e)
    (ha : Path.Apart wd marker r.logPath) (fault : Fault) :
    (r.recordFault fault p).2.1.Guarded wd marker e := by
  have hpath : (if r.stored = .armed then { r with stored := .faulted } else r).logPath =
      r.logPath := by
    split <;> rfl
  rw [recordFault]
  split
  next => exact hg.record _ fault
  next =>
    simp only [hpath]
    exact (hg.addCapture ha _).record _ fault

/-- A fault that is recorded changes at most an armed reporter, to one that has seen a fault. -/
theorem recordFault_eq (r : Reporter) (fault : Fault) (p : Platform) :
    (r.recordFault fault p).1 = { r with
      stored := if r.stored = .armed then .faulted else r.stored } := by
  rw [recordFault]
  split <;> (simp only; split <;> rfl)

theorem isInstalled_recordFault (r : Reporter) (fault : Fault) (p : Platform) :
    (r.recordFault fault p).1.isInstalled = r.isInstalled := by
  rw [recordFault_eq]
  simp only [isInstalled]
  cases r.stored <;> rfl

/-- It is recorded with the capture of the reporter, or with one that is made for it. -/
theorem snd_recordFault (r : Reporter) (fault : Fault) (p : Platform) :
    (r.recordFault fault p).2 = match r.capture with
      | some c => p.record c fault
      | none => (p.addCapture r.registry r.logPath).record p.captures.length fault := by
  rw [recordFault]
  by_cases h : r.stored = .armed
  · simp only [if_pos h]
    cases r.capture <;> rfl
  · simp only [if_neg h]
    cases r.capture <;> rfl

theorem guarded_drop {marker : String} (hg : p.Guarded wd marker e) :
    (r.drop p).Guarded wd marker e := by
  rw [drop]
  induction r.interceptors generalizing p with
  | nil => exact hg
  | cons i is ih => exact ih (hg.untouched (i.untouched_drop p))

end Reporter
end Vigil
