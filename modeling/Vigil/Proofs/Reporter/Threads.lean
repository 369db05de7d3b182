import Vigil.Proofs.Reporter.Sessions

/-!
# Reporter — threads

One reporter that several threads install and uninstall.  Its lock makes an installation one step.
An uninstallation is two: the reporter is released under the lock, and the marker is deleted when
the lock is given back, so that other threads come in between.

* `Step.uninstall`: nobody comes in between, and the two steps are an uninstallation.
* `leftover`, `result?`, `pending`: what the events say about the marker, the reporter and the
  threads that have not deleted the marker yet.
* `Sound`: that is so in every state; `Paired`: how the three go together.
* `marker_lost`: an installation in between loses its marker.

**The marker of a reporter that threads share** (`marker_with_state`): when no thread is in between,
the marker goes with the state if and only if the reporter was not last installed in between.
-/

namespace Vigil.Threads
open Vigil.Sessions (Known Elsewhere)

/-- A reporter that threads share. -/
structure World where
  platform : Platform
  reporter : Reporter
  /-- The threads that have released the reporter and are to delete the marker. -/
  deleting : List Nat

/-- What a step of a thread was. -/
inductive Event where
  /-- The reporter was not installed: it left its own marker and returned what it found. -/
  | installed (thread : Nat) (own : Marker) (found : Option PriorCrash)
  /-- The reporter was installed already, and returned this. -/
  | repeated (thread : Nat) (found : Option PriorCrash)
  /-- The first step of an uninstallation. -/
  | released (thread : Nat)
  /-- The second step of an uninstallation. -/
  | deleted (thread : Nat)
  | other

/-- A step of a thread that is not in between, the second step of one that is, or something that
others do.  File operations on the marker succeed, and interceptors are armed. -/
inductive Step (marker : String) : World → Event → World → Prop where
  | install (w : World) (k : Nat) {r' : Reporter} {p' : Platform} {found : Option PriorCrash}
      (hk : k ∉ w.deleting) (hn : w.reporter.capture = none)
      (hf : w.reporter.FilesWork w.platform)
      (h : w.reporter.install w.platform = (r', p', .ok found)) :
      Step marker w (.installed k (w.reporter.ownMarker w.platform) found)
        { w with platform := p', reporter := r' }
  /-- A reporter that is installed is to be installed again. -/
  | reinstall (w : World) (k : Nat) {r' : Reporter} {p' : Platform} {found : Option PriorCrash}
      (hk : k ∉ w.deleting) (hi : w.reporter.capture.isSome = true)
      (h : w.reporter.install w.platform = (r', p', .ok found)) :
      Step marker w (.repeated k found) { w with platform := p', reporter := r' }
  | release (w : World) (k : Nat) (hk : k ∉ w.deleting) (hi : w.reporter.isInstalled = true) :
      Step marker w (.released k) ⟨(w.reporter.release w.platform).2,
        (w.reporter.release w.platform).1, k :: w.deleting⟩
  /-- A reporter that is not installed is to be uninstalled. -/
  | pass (w : World) (k : Nat) (hk : k ∉ w.deleting) (hi : w.reporter.isInstalled = false) :
      Step marker w .other { w with
        platform := (w.reporter.uninstall w.platform).2
        reporter := (w.reporter.uninstall w.platform).1 }
  | delete (w : World) (k : Nat) (hk : k ∈ w.deleting) :
      Step marker w (.deleted k) { w with
        platform := w.reporter.deleteMarker .markerKept w.platform
        deleting := w.deleting.erase k }
  | recordFault (w : World) (fault : Fault) :
      Step marker w .other { w with
        platform := (w.reporter.recordFault fault w.platform).2.1
        reporter := (w.reporter.recordFault fault w.platform).1 }
  | panic (w : World) (message thread : Option String) :
      Step marker w .other { w with platform := w.platform.panic message thread }
  | elsewhere (w : World) {p' : Platform} (h : Elsewhere marker w.platform p') :
      Step marker w .other { w with platform := p' }

/-- If nobody comes in between, the two steps are an uninstallation. -/
theorem Step.uninstall {marker : String} {w : World} {k : Nat} (hk : k ∉ w.deleting)
    (hi : w.reporter.isInstalled = true) :
    Run (Step marker) w [.released k, .deleted k] { w with
      platform := (w.reporter.uninstall w.platform).2
      reporter := (w.reporter.uninstall w.platform).1 } := by
  have hdelete := @Step.delete marker ⟨(w.reporter.release w.platform).2,
    (w.reporter.release w.platform).1, k :: w.deleting⟩ k List.mem_cons_self
  rw [List.erase_cons_head] at hdelete
  rw [Reporter.uninstall, if_pos hi]
  exact .more (.release w k hk hi) (.one hdelete)

/-! ### What the events say -/

namespace Event

def installs : Event → Bool
  | installed .. => true
  | _ => false

def releases : Event → Bool
  | released _ => true
  | _ => false

def deletes : Event → Bool
  | deleted _ => true
  | _ => false

/-- What an event leaves at the path of the marker. -/
def leave : Option Bytes → Event → Option Bytes
  | _, installed _ own _ => some own.bytes
  | _, deleted _ => none
  | e, _ => e

/-- The result of an installation, while the reporter is installed. -/
def answer : Option (Option PriorCrash) → Event → Option (Option PriorCrash)
  | _, installed _ _ found => some found
  | _, released _ => none
  | result, _ => result

/-- The threads that are in between. -/
def pend : List Nat → Event → List Nat
  | ks, released k => k :: ks
  | ks, deleted k => ks.erase k
  | ks, _ => ks

end Event

/-- What is left at the path of the marker, where `before` was in the beginning. -/
def leftover (before : Option Bytes) (es : List Event) : Option Bytes := es.foldl Event.leave before

/-- The result of the last installation, unless the reporter was released since. -/
def result? (es : List Event) : Option (Option PriorCrash) := es.foldl Event.answer none

/-- The threads that have released the reporter and not yet deleted the marker. -/
def pending (es : List Event) : List Nat := es.foldl Event.pend []

/-- The reporter was installed while a thread was in between, and neither installed nor released
since. -/
def Overlapped (es : List Event) : Prop :=
  ∃ past k own found rest, es = past ++ .installed k own found :: rest ∧ pending past ≠ [] ∧
    ∀ e ∈ rest, e.installs = false ∧ e.releases = false

section Events
variable {before : Option Bytes} {es fs : List Event} {e : Event}

theorem leftover_append : leftover before (es ++ fs) = leftover (leftover before es) fs :=
  List.foldl_append

theorem leftover_concat : leftover before (es ++ [e]) = Event.leave (leftover before es) e :=
  List.foldl_append

theorem result?_concat : result? (es ++ [e]) = Event.answer (result? es) e := List.foldl_append

theorem pending_concat : pending (es ++ [e]) = Event.pend (pending es) e := List.foldl_append

/-- Nothing is left if nothing was there and the reporter is not installed. -/
theorem leftover_none (h : ∀ e ∈ es, e.installs = false) : leftover none es = none := by
  induction es with
  | nil => rfl
  | cons e es ih =>
      have hleave : Event.leave none e = none := by
        cases e with
        | installed => cases h _ List.mem_cons_self
        | _ => rfl
      rw [leftover, List.foldl_cons, hleave]
      exact ih fun e he => h e (List.mem_cons_of_mem _ he)

/-- What is left is gone when a thread deletes it, and until then it stays. -/
theorem leftover_of_not_installs (h : ∀ e ∈ es, e.installs = false) :
    ((∃ e ∈ es, e.deletes = true) → leftover before es = none) ∧
      ((∀ e ∈ es, e.deletes = false) → leftover before es = before) := by
  refine ⟨fun ⟨e, he, hd⟩ => ?_, fun hd => ?_⟩
  · obtain ⟨front, back, rfl⟩ := List.append_of_mem he
    rw [leftover_append, leftover, List.foldl_cons]
    cases e with
    | deleted => exact leftover_none fun e he => h e (by simp [he])
    | _ => cases hd
  · induction es with
    | nil => rfl
    | cons e es ih =>
        have hleave : Event.leave before e = before := by
          cases e with
          | installed => cases h _ List.mem_cons_self
          | deleted => cases hd _ List.mem_cons_self
          | _ => rfl
        rw [leftover, List.foldl_cons, hleave]
        exact ih (fun e he => h e (List.mem_cons_of_mem _ he))
          fun e he => hd e (List.mem_cons_of_mem _ he)

theorem not_overlapped_nil : ¬ Overlapped [] := by
  rintro ⟨past, k, own, found, rest, hes, -⟩
  cases past <;> cases hes

theorem overlapped_concat : Overlapped (es ++ [e]) ↔
    (e.installs = true ∧ pending es ≠ []) ∨
      (e.installs = false ∧ e.releases = false ∧ Overlapped es) := by
  constructor
  · rintro ⟨past, k, own, found, rest, hes, hp, hrest⟩
    -- Either the installation is the last event, or the last event is one of the rest.
    rcases List.eq_nil_or_concat rest with rfl | ⟨rest, last, rfl⟩
    · obtain ⟨rfl, he⟩ := List.append_inj' hes rfl
      cases he
      exact Or.inl ⟨rfl, hp⟩
    · rw [List.concat_eq_append] at hes hrest
      rw [← List.cons_append, ← List.append_assoc] at hes
      obtain ⟨rfl, he⟩ := List.append_inj' hes rfl
      cases he
      have hlast := hrest e (List.mem_append_right _ List.mem_cons_self)
      exact Or.inr ⟨hlast.1, hlast.2, past, k, own, found, rest, rfl, hp,
        fun x hx => hrest x (List.mem_append_left _ hx)⟩
  · rintro (⟨hi, hp⟩ | ⟨hi, hr, past, k, own, found, rest, rfl, hp, hrest⟩)
    · cases e with
      | installed k own found => exact ⟨es, k, own, found, [], rfl, hp, nofun⟩
      | _ => cases hi
    · refine ⟨past, k, own, found, rest ++ [e], by simp, hp, fun x hx => ?_⟩
      rcases List.mem_append.1 hx with hx | hx
      · exact hrest x hx
      · cases List.mem_singleton.1 hx
        exact ⟨hi, hr⟩

end Events

/-! ### How the marker goes with the reporter -/

/-- What is left, whether the reporter is installed, and who is in between. -/
structure Paired (before : Option Bytes) (es : List Event) : Prop where
  installed : Overlapped es → (result? es).isSome = true
  /-- The marker stays where it is if nobody was in between. -/
  kept : (result? es).isSome = true → ¬ Overlapped es →
    pending es = [] ∧ (leftover before es).isSome = true
  /-- If somebody was, it is gone by the time that nobody is. -/
  lost : Overlapped es → pending es = [] → leftover before es = none
  released : result? es = none → pending es = [] →
    (before = none ∨ ∃ e ∈ es, e.installs = true) → leftover before es = none

namespace Paired
variable {before : Option Bytes} {es : List Event} {e : Event}

theorem nil (before : Option Bytes) : Paired before [] where
  installed h := absurd h not_overlapped_nil
  kept := nofun
  lost h := absurd h not_overlapped_nil
  released := by
    rintro - - (rfl | ⟨e, he, -⟩)
    · rfl
    · cases he

/-- Other events change nothing of this. -/
theorem quiet (h : Paired before es) (hl : Event.leave (leftover before es) e = leftover before es)
    (ha : Event.answer (result? es) e = result? es) (hp : Event.pend (pending es) e = pending es)
    (hi : e.installs = false) (hr : e.releases = false) : Paired before (es ++ [e]) := by
  have hover : Overlapped (es ++ [e]) ↔ Overlapped es := by
    rw [overlapped_concat, hi, hr]
    simp
  have hany : (∃ x ∈ es ++ [e], x.installs = true) ↔ ∃ x ∈ es, x.installs = true := by
    simp [or_and_right, exists_or, hi]
  refine ⟨?_, ?_, ?_, ?_⟩
  · rw [result?_concat, ha, hover]
    exact h.installed
  · rw [result?_concat, ha, hover, pending_concat, hp, leftover_concat, hl]
    exact h.kept
  · rw [hover, pending_concat, hp, leftover_concat, hl]
    exact h.lost
  · rw [result?_concat, ha, pending_concat, hp, hany, leftover_concat, hl]
    exact h.released

/-- Only a thread that is in between deletes the marker, and that is all it takes. -/
theorem concat (h : Paired before es) (he : ∀ k, e = .deleted k → k ∈ pending es) :
    Paired before (es ++ [e]) := by
  cases e with
  | installed k own found =>
      have hover : Overlapped (es ++ [.installed k own found]) ↔ pending es ≠ [] := by
        rw [overlapped_concat]
        simp [Event.installs]
      refine ⟨fun _ => ?_, fun _ ho => ?_, fun ho hp => ?_, fun hr => ?_⟩
      · rw [result?_concat]
        rfl
      · rw [hover, Decidable.not_not] at ho
        rw [pending_concat, leftover_concat]
        exact ⟨ho, rfl⟩
      · rw [pending_concat] at hp
        exact absurd hp (hover.1 ho)
      · rw [result?_concat] at hr
        cases hr
  | repeated => exact h.quiet rfl rfl rfl rfl rfl
  | released k =>
      have hpending : pending (es ++ [.released k]) ≠ [] := by
        rw [pending_concat]
        exact List.cons_ne_nil _ _
      have hover : ¬ Overlapped (es ++ [.released k]) := by
        rw [overlapped_concat]
        simp [Event.installs, Event.releases]
      refine ⟨fun ho => absurd ho hover, fun hr => ?_, fun ho => absurd ho hover,
        fun _ hp => absurd hp hpending⟩
      rw [result?_concat] at hr
      cases hr
  | deleted k =>
      have hk := he k rfl
      have hleft : leftover before (es ++ [.deleted k]) = none := by
        rw [leftover_concat]
        rfl
      have hover : Overlapped (es ++ [.deleted k]) ↔ Overlapped es := by
        rw [overlapped_concat]
        simp [Event.installs, Event.releases]
      refine ⟨?_, fun hr ho => ?_, fun _ _ => hleft, fun _ _ _ => hleft⟩
      · rw [hover, result?_concat]
        exact h.installed
      · rw [result?_concat] at hr
        rw [hover] at ho
        rw [(h.kept hr ho).1] at hk
        cases hk
  | other => exact h.quiet rfl rfl rfl rfl rfl

/-- When nobody is in between, the marker goes with the reporter unless somebody was when it was
installed. -/
theorem marker_iff (h : Paired before es) (hp : pending es = [])
    (hb : before = none ∨ ∃ e ∈ es, e.installs = true) :
    ((leftover before es).isSome = true ↔ (result? es).isSome = true) ↔ ¬ Overlapped es := by
  constructor
  · intro hiff ho
    rw [h.lost ho hp] at hiff
    exact Bool.false_ne_true (hiff.2 (h.installed ho))
  · intro ho
    cases hr : result? es with
    | some found => simp [(h.kept (by rw [hr]; rfl) ho).2]
    | none => simp [h.released hr hp hb]

end Paired

/-! ### What is true in every state -/

/-- What is true after the events `es`, if there was `before` at the path of the marker. -/
structure Sound (marker : String) (wd : Place) (before : Option Bytes) (es : List Event)
    (w : World) : Prop where
  platform : w.platform.Guarded wd marker (leftover before es)
  known : Known marker wd (result? es) w.reporter
  deleting : w.deleting = pending es
  paired : Paired before es

namespace Sound
variable {marker : String} {wd : Place} {before : Option Bytes} {es : List Event} {w w' : World}
  {p' : Platform} {r' : Reporter} {ks : List Nat} {e : Event}

/-- A step keeps this if it does to the world what its event says. -/
theorem step (h : Sound marker wd before es w)
    (hp : p'.Guarded wd marker (Event.leave (leftover before es) e))
    (hr : Known marker wd (Event.answer (result? es) e) r')
    (hks : ks = Event.pend (pending es) e) (he : ∀ k, e = .deleted k → k ∈ pending es) :
    Sound marker wd before (es ++ [e]) ⟨p', r', ks⟩ where
  platform := by
    rw [leftover_concat]
    exact hp
  known := by
    rw [result?_concat]
    exact hr
  deleting := by
    rw [pending_concat]
    exact hks
  paired := h.paired.concat he

/-- The marker is there if something is left, and the state says if the reporter is installed. -/
theorem observed (h : Sound marker wd before es w) :
    w.platform.files.pathExists marker = (leftover before es).isSome ∧
      w.reporter.isInstalled = (result? es).isSome := by
  refine ⟨h.platform.holds.pathExists h.platform.wellFormed, h.known.installed.trans ?_⟩
  cases hc : w.reporter.capture with
  | none =>
      rw [h.known.idle hc]
      rfl
  | some c =>
      obtain ⟨found, -, hres⟩ := h.known.held (by rw [hc]; rfl)
      rw [hres]
      rfl

end Sound

theorem Step.sound {marker : String} {wd : Place} {before : Option Bytes} {es : List Event}
    {w w' : World} {e : Event} (h : Sound marker wd before es w) (hs : Step marker w e w') :
    Sound marker wd before (es ++ [e]) w' := by
  have hr := h.known
  have hmarker := hr.markerPath
  cases hs with
  | @install k r' p' found hk hn hf hi =>
      obtain ⟨-, ⟨interceptors, rfl⟩, -⟩ := Reporter.install_ok hn hi
      refine h.step ?_ ?_ h.deleting nofun
      · have hp := h.platform
        rw [← hmarker] at hp ⊢
        exact Reporter.guarded_install hn hi hp hf (hmarker ▸ hr.apart)
      · exact ⟨hmarker, hr.apart, rfl, nofun, fun _ => ⟨found, rfl, rfl⟩⟩
  | reinstall k hk hi hinstall =>
      rw [Reporter.install_of_installed hi] at hinstall
      cases hinstall
      exact h.step (h.platform.untouched ⟨rfl, rfl⟩) hr h.deleting nofun
  | release k hk hi =>
      refine h.step (h.platform.untouched (Interceptor.untouched_disarmAll _ _)) ?_
        (congrArg (k :: ·) h.deleting) nofun
      exact ⟨hmarker, hr.apart, rfl, fun _ => rfl, nofun⟩
  | pass k hk hi =>
      rw [Reporter.uninstall_of_not_installed hi]
      exact h.step h.platform hr h.deleting nofun
  | delete k hk =>
      refine h.step ?_ hr (congrArg (·.erase k) h.deleting) ?_
      · have hp := h.platform
        rw [← hmarker] at hp ⊢
        exact Reporter.guarded_deleteMarker hp .markerKept
      · rintro _ ⟨⟩
        exact h.deleting ▸ hk
  | recordFault fault =>
      exact h.step (Reporter.guarded_recordFault h.platform hr.apart fault)
        (hr.recordFault fault w.platform) h.deleting nofun
  | panic message thread => exact h.step (h.platform.panic message thread) hr h.deleting nofun
  | elsewhere he => exact h.step (he.guarded h.platform) hr h.deleting nofun

/-- An installation returns what was left, and a repeated one the result of the one before. -/
theorem Step.returned {marker : String} {wd : Place} {before : Option Bytes} {es : List Event}
    {w w' : World} {e : Event} (h : Sound marker wd before es w) (hs : Step marker w e w') :
    (∀ k own found, e = .installed k own found →
      result? es = none ∧ found = (leftover before es).map PriorCrash.ofBytes) ∧
    (∀ k found, e = .repeated k found → result? es = some found) := by
  have hr := h.known
  cases hs with
  | install k hk hn hf hi =>
      refine ⟨?_, nofun⟩
      rintro _ _ _ ⟨⟩
      have hp := h.platform
      rw [← hr.markerPath] at hp
      exact ⟨hr.idle hn, Reporter.found_install hn hi hp hf⟩
  | reinstall k hk hi hinstall =>
      refine ⟨nofun, ?_⟩
      rintro _ _ ⟨⟩
      obtain ⟨found, hprior, hres⟩ := hr.held hi
      rw [Reporter.install_of_installed hi, hprior] at hinstall
      cases hinstall
      exact hres
  | _ => exact ⟨nofun, nofun⟩

/-- The reporter is new, and no thread has begun. -/
structure Initial (marker : String) (before : Option Bytes) (w : World) : Prop where
  platform : w.platform.Guarded w.platform.files.workingDirectory marker before
  reporter : ∃ logPath version registry interceptors,
    Path.Apart w.platform.files.workingDirectory marker logPath ∧
      w.reporter = .new marker logPath version registry interceptors
  deleting : w.deleting = []

section Runs
variable {marker : String} {before : Option Bytes} {w₀ w : World} {es : List Event}

theorem Initial.sound (h : Initial marker before w₀) :
    Sound marker w₀.platform.files.workingDirectory before [] w₀ where
  platform := h.platform
  known := by
    obtain ⟨_, version, registry, interceptors, ha, hr⟩ := h.reporter
    rw [hr]
    exact .new ha version registry interceptors
  deleting := h.deleting
  paired := .nil before

theorem sound_run (h₀ : Initial marker before w₀) (h : Run (Step marker) w₀ es w) :
    Sound marker w₀.platform.files.workingDirectory before es w :=
  h.history h₀.sound fun hs hst => hst.sound hs

/-- **The marker of a reporter that threads share.**  Along every run of threads that install and
uninstall a reporter, while others record faults:
* when no thread is in between, and the marker of an earlier session is out of the way, the marker
  is there if and only if the reporter is armed or has seen a fault, unless the reporter was last
  installed while a thread was in between: then it is gone;
* an installation returns what was left: nothing, if the reporter was installed before and no
  thread is in between;
* an installation after another returns the marker of that one if and only if no thread has deleted
  it;
* a reporter that is installed repeats its result. -/
theorem marker_with_state (h₀ : Initial marker before w₀) (h : Run (Step marker) w₀ es w) :
    (w.deleting = [] → (before = none ∨ ∃ e ∈ es, e.installs = true) →
      ((w.platform.files.pathExists marker = true ↔
          w.reporter.state w.platform = .armed ∨ w.reporter.state w.platform = .faulted) ↔
        ¬ Overlapped es)) ∧
    (∀ past k own found rest, es = past ++ .installed k own found :: rest →
      found = (leftover before past).map PriorCrash.ofBytes ∧
      (pending past = [] → (∃ e ∈ past, e.installs = true) → found = none)) ∧
    (∀ past k own found mid k' own' found' rest,
      es = past ++ .installed k own found :: (mid ++ .installed k' own' found' :: rest) →
      (∀ e ∈ mid, e.installs = false) →
      ((∃ e ∈ mid, e.deletes = true) → found' = none) ∧
      ((∀ e ∈ mid, e.deletes = false) → found' = some (.ofBytes own.bytes))) ∧
    (∀ past k found rest, es = past ++ .repeated k found :: rest → result? past = some found) := by
  have hfound : ∀ past k own found rest, es = past ++ .installed k own found :: rest →
      found = (leftover before past).map PriorCrash.ofBytes ∧
      (pending past = [] → (∃ e ∈ past, e.installs = true) → found = none) := by
    intro past k own found rest hes
    subst hes
    obtain ⟨w₁, w₂, h₁, hst, -⟩ := h.split_at
    have hs := sound_run h₀ h₁
    obtain ⟨hidle, heq⟩ := (hst.returned hs).1 k own found rfl
    refine ⟨heq, fun hp hany => ?_⟩
    rw [heq, hs.paired.released hidle hp (Or.inr hany)]
    rfl
  refine ⟨fun hrest hb => ?_, hfound, ?_, ?_⟩
  · have hs := sound_run h₀ h
    obtain ⟨hexists, hinstalled⟩ := hs.observed
    rw [← Reporter.isInstalled_iff_state, hexists, hinstalled]
    exact hs.paired.marker_iff (hs.deleting.symm.trans hrest) hb
  · intro past k own found mid k' own' found' rest hes hmid
    have hlater := (hfound (past ++ [.installed k own found] ++ mid) k' own' found' rest
      (by rw [hes]; simp)).1
    have hleft := @leftover_of_not_installs (some own.bytes) mid hmid
    rw [leftover_append, leftover_concat] at hlater
    refine ⟨fun hd => ?_, fun hd => ?_⟩
    · rw [hlater, Event.leave, hleft.1 hd]
      rfl
    · rw [hlater, Event.leave, hleft.2 hd]
      rfl
  · intro past k found rest hes
    subst hes
    obtain ⟨w₁, w₂, h₁, hst, -⟩ := h.split_at
    exact (hst.returned (sound_run h₀ h₁)).2 k found rfl

end Runs

/-! ### Schedules -/

/-- A new reporter without interceptors, in the root directory. -/
def start (p : Platform) : World := ⟨p, .new "m" "log" "1" 0 [], []⟩

/-- Its threads can take these steps. -/
def Schedulable (p : Platform) (es : List Event) : Prop :=
  ∃ w, Run (Step "m") (start p) es w ∧ w.reporter.interceptors = []

theorem initial_start {p : Platform} (hp : p.Guarded [] "m" none) : Initial "m" none (start p) where
  platform := hp.workingDirectory.symm ▸ hp
  reporter := ⟨"log", "1", 0, [], hp.workingDirectory.symm ▸ Sessions.apart_log, rfl⟩
  deleting := rfl

namespace Schedulable
variable {p : Platform} {es : List Event} {k : Nat}

theorem nil (p : Platform) : Schedulable p [] := ⟨start p, .refl _, rfl⟩

theorem install (h : Schedulable p es) (hp : p.Guarded [] "m" none) (hk : k ∉ pending es)
    (hr : result? es = none) : ∃ own,
      Schedulable p (es ++ [.installed k own ((leftover none es).map PriorCrash.ofBytes)]) := by
  obtain ⟨w, hrun, hbare⟩ := h
  have hs := sound_run (initial_start hp) hrun
  have hn : w.reporter.capture = none := by
    refine Option.eq_none_iff_forall_ne_some.2 fun c hc => ?_
    obtain ⟨found, -, hres⟩ := hs.known.held (by rw [hc]; rfl)
    cases hr.symm.trans hres
  have hplatform := hs.platform
  rw [show (start p).platform.files.workingDirectory = [] from hp.workingDirectory] at hplatform
  have hf : w.reporter.FilesWork w.platform :=
    (Sessions.filesWork_root hplatform w.reporter.version).congr hs.known.markerPath rfl
  have hinstall : w.reporter.install w.platform = ({ w.reporter with
      stored := .armed
      capture := some (w.reporter.nextCapture w.platform)
      prior := some (w.reporter.takePrior w.platform).2 },
      w.reporter.prepared w.platform, .ok (w.reporter.takePrior w.platform).2) := by
    rw [Reporter.install_eq hn]
    cases hw : w.reporter
    rw [hw] at hbare
    cases hbare
    rfl
  have hstep := @Step.install "m" w k _ _ _ (hs.deleting ▸ hk) hn hf hinstall
  have hfound := ((hstep.returned hs).1 _ _ _ rfl).2
  rw [hfound] at hstep
  exact ⟨_, _, hrun.trans (.one hstep), hbare⟩

theorem release (h : Schedulable p es) (hp : p.Guarded [] "m" none) (hk : k ∉ pending es)
    (hr : (result? es).isSome = true) : Schedulable p (es ++ [.released k]) := by
  obtain ⟨w, hrun, hbare⟩ := h
  have hs := sound_run (initial_start hp) hrun
  refine ⟨_, hrun.trans (.one (.release w k (hs.deleting ▸ hk) (hs.observed.2.trans hr))), ?_⟩
  rw [Reporter.release, hbare]
  rfl

theorem delete (h : Schedulable p es) (hp : p.Guarded [] "m" none) (hk : k ∈ pending es) :
    Schedulable p (es ++ [.deleted k]) := by
  obtain ⟨w, hrun, hbare⟩ := h
  have hs := sound_run (initial_start hp) hrun
  exact ⟨_, hrun.trans (.one (.delete w k (hs.deleting ▸ hk))), hbare⟩

end Schedulable

/-- Nothing is at the path of the marker in an empty directory. -/
theorem guarded_new (now : Tick) (wall : Instant) (pid : UInt32) :
    (Platform.new (.new []) now wall pid "" "").Guarded [] "m" none :=
  ⟨rfl, Tree.wellFormed_new [], Tree.find?_new [] _, nofun⟩

/-- One thread installs the reporter, uninstalls it and installs it again. -/
theorem marker_with_state_reinstalled :
    let p : Platform := .new (.new []) 0 ⟨0, 0, by decide⟩ 7 "" ""
    ∃ own own' w, Run (Step "m") (start p) [.installed 0 own none, .released 0, .deleted 0,
        .installed 0 own' none] w ∧
      (w.platform.files.pathExists "m" = true ↔
        w.reporter.state w.platform = .armed ∨ w.reporter.state w.platform = .faulted) := by
  intro p
  have hp : p.Guarded [] "m" none := guarded_new ..
  obtain ⟨own, hfirst⟩ := (Schedulable.nil p).install (k := 0) hp nofun rfl
  have hgone := (hfirst.release (k := 0) hp nofun rfl).delete hp List.mem_cons_self
  obtain ⟨own', w, hrun, -⟩ := hgone.install (k := 0) hp nofun rfl
  have hover : ¬ Overlapped ([.installed 0 own none, .released 0, .deleted 0] ++
      [.installed 0 own' none]) := by
    rw [overlapped_concat]
    simp [Event.installs, pending, Event.pend]
  have h₀ := initial_start hp
  have hrest := (sound_run h₀ hrun).deleting
  exact ⟨own, own', w, hrun, ((marker_with_state h₀ hrun).1 hrest (Or.inl rfl)).2 hover⟩

/-- A thread installs the reporter after another has released it and before that one deletes the
marker: it finds the marker of its own session, and the one that it leaves is deleted. -/
theorem marker_lost :
    let p : Platform := .new (.new []) 0 ⟨0, 0, by decide⟩ 7 "" ""
    ∃ own own' w, Run (Step "m") (start p) [.installed 0 own none, .released 0,
        .installed 1 own' (some (.ofBytes own.bytes)), .deleted 0] w ∧ w.deleting = [] ∧
      (w.reporter.state w.platform = .armed ∨ w.reporter.state w.platform = .faulted) ∧
      w.platform.files.pathExists "m" = false := by
  intro p
  have hp : p.Guarded [] "m" none := guarded_new ..
  obtain ⟨own, hfirst⟩ := (Schedulable.nil p).install (k := 0) hp nofun rfl
  have hreleased := hfirst.release (k := 0) hp nofun rfl
  obtain ⟨own', hsecond⟩ := hreleased.install (k := 1) hp (by decide : 1 ∉ [0]) rfl
  obtain ⟨w, hrun, -⟩ := hsecond.delete (k := 0) hp List.mem_cons_self
  have hs := sound_run (initial_start hp) hrun
  refine ⟨own, own', w, hrun, hs.deleting, ?_, hs.observed.1⟩
  exact (Reporter.isInstalled_iff_state _ _).1 hs.observed.2

end Vigil.Threads
