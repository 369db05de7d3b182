import Vigil.Proofs.Reporter.Lifecycle
import Vigil.Proofs.Run

/-!
# Reporter — sessions

Sessions of a program, one after the other or side by side, whose reporters share the path of
their marker.  A `Step` is one operation of one session, or something that others do elsewhere:
time passes, another process runs, files are changed that are not the marker.  A session ends when
its reporter is dropped or its process killed, at any time.

* `leftover`: what the last installation or uninstallation has left at the path.
* `Sound`: that is what is there, and each reporter that is installed remembers its result.

**The protocol of the marker** (`marker_protocol`): it holds along every run.
-/

namespace Vigil.Sessions

/-- The state that sessions share, and their reporters; a session that has ended has none. -/
structure World where
  platform : Platform
  sessions : List (Option Reporter)

/-- What an operation was for the marker. -/
inductive Event where
  /-- A reporter that was not installed was installed: it left its own marker and returned what it
  found. -/
  | installed (session : Nat) (own : Marker) (found : Option PriorCrash)
  /-- A reporter that was installed was uninstalled. -/
  | uninstalled (session : Nat)
  | other

/-- The session whose reporter was installed or uninstalled. -/
def Event.session? : Event → Option Nat
  | .installed k _ _ => some k
  | .uninstalled k => some k
  | .other => none

/-- Nothing that a platform has to keep for the marker is changed. -/
structure Elsewhere (marker : String) (p p' : Platform) : Prop where
  workingDirectory : p'.files.workingDirectory = p.files.workingDirectory
  wellFormed : p'.files.WellFormed
  read : p'.files.read marker = p.files.read marker
  find? : p'.files.find? (p'.files.place marker) = p.files.find? (p.files.place marker)
  apart : ∀ c ∈ p'.captures, Path.Apart p'.files.workingDirectory marker c.logPath

/-- An operation of a session, or of others.  Logs are apart from the marker, and when a reporter is
installed its interceptors are armed and the file operations on the marker succeed. -/
inductive Step (marker : String) : World → Event → World → Prop where
  | launch (w : World) {logPath version : String} {registry : Nat}
      {interceptors : List Interceptor}
      (h : Path.Apart w.platform.files.workingDirectory marker logPath) :
      Step marker w .other { w with sessions :=
        w.sessions ++ [some (.new marker logPath version registry interceptors)] }
  | install (w : World) (k : Nat) {r r' : Reporter} {p' : Platform} {found : Option PriorCrash}
      (hk : w.sessions[k]? = some (some r)) (hn : r.capture = none) (hf : r.FilesWork w.platform)
      (h : r.install w.platform = (r', p', .ok found)) :
      Step marker w (.installed k (r.ownMarker w.platform) found)
        ⟨p', w.sessions.set k (some r')⟩
  /-- A reporter that is installed is to be installed again. -/
  | reinstall (w : World) (k : Nat) {r : Reporter} (hk : w.sessions[k]? = some (some r))
      (hi : r.capture.isSome = true) :
      Step marker w .other
        ⟨(r.install w.platform).2.1, w.sessions.set k (some (r.install w.platform).1)⟩
  | uninstall (w : World) (k : Nat) {r : Reporter} (hk : w.sessions[k]? = some (some r))
      (hi : r.isInstalled = true) :
      Step marker w (.uninstalled k)
        ⟨(r.uninstall w.platform).2, w.sessions.set k (some (r.uninstall w.platform).1)⟩
  /-- A reporter that is not installed is to be uninstalled. -/
  | pass (w : World) (k : Nat) {r : Reporter} (hk : w.sessions[k]? = some (some r))
      (hi : r.isInstalled = false) :
      Step marker w .other
        ⟨(r.uninstall w.platform).2, w.sessions.set k (some (r.uninstall w.platform).1)⟩
  | recordFault (w : World) (k : Nat) {r : Reporter} (hk : w.sessions[k]? = some (some r))
      (fault : Fault) :
      Step marker w .other ⟨(r.recordFault fault w.platform).2.1,
        w.sessions.set k (some (r.recordFault fault w.platform).1)⟩
  | panic (w : World) (message thread : Option String) :
      Step marker w .other { w with platform := w.platform.panic message thread }
  | drop (w : World) (k : Nat) {r : Reporter} (hk : w.sessions[k]? = some (some r)) :
      Step marker w .other ⟨r.drop w.platform, w.sessions.set k none⟩
  | kill (w : World) (k : Nat) {r : Reporter} (hk : w.sessions[k]? = some (some r)) :
      Step marker w .other { w with sessions := w.sessions.set k none }
  | elsewhere (w : World) {p' : Platform} (h : Elsewhere marker w.platform p') :
      Step marker w .other { w with platform := p' }

/-! ### What the events say -/

/-- What the last installation or uninstallation has left at the path of the marker: its own marker
or nothing, and if there was none, what was there in the beginning. -/
def leftover (before : Option Bytes) (es : List Event) : Option Bytes :=
  match es.reverse.find? fun e => e.session?.isSome with
  | none => before
  | some (.installed _ own _) => some own.bytes
  | some _ => none

/-- The result of the last installation of a session, unless it was uninstalled since. -/
def result? (session : Nat) (es : List Event) : Option (Option PriorCrash) :=
  match es.reverse.find? fun e => e.session? = some session with
  | some (.installed _ _ found) => some found
  | _ => none

/-- No reporter is installed or uninstalled. -/
def Quiet (es : List Event) : Prop := ∀ e ∈ es, e.session? = none

section Events
variable {before : Option Bytes} {es fs : List Event} {k : Nat} {own : Marker}
  {found : Option PriorCrash}

@[simp]
theorem leftover_installed : leftover before (es ++ [.installed k own found]) = some own.bytes := by
  rw [leftover, List.reverse_concat]
  rfl

@[simp]
theorem leftover_uninstalled : leftover before (es ++ [.uninstalled k]) = none := by
  rw [leftover, List.reverse_concat]
  rfl

@[simp]
theorem leftover_other : leftover before (es ++ [.other]) = leftover before es := by
  rw [leftover, List.reverse_concat]
  rfl

theorem leftover_append :
    leftover before (es ++ fs) = leftover (leftover before es) fs := by
  simp only [leftover, List.reverse_append, List.find?_append]
  cases fs.reverse.find? fun e => e.session?.isSome with
  | none => rfl
  | some e => cases e <;> rfl

theorem Quiet.leftover_eq (h : Quiet es) : leftover before es = before := by
  rw [leftover, List.find?_eq_none.2 fun e he => ?_]
  rw [h e (List.mem_reverse.1 he)]
  exact Bool.false_ne_true

/-- An installation or uninstallation does away with what was left before it. -/
theorem leftover_of_not_quiet (h : ¬ Quiet es) (before' : Option Bytes) :
    leftover before es = leftover before' es := by
  rw [leftover, leftover]
  split
  next hn =>
    refine absurd (fun e he => ?_) h
    exact Option.not_isSome_iff_eq_none.1 (List.find?_eq_none.1 hn e (List.mem_reverse.2 he))
  next => rfl
  next => rfl

@[simp]
theorem result?_installed : result? k (es ++ [.installed k own found]) = some found := by
  simp [result?, Event.session?]

@[simp]
theorem result?_uninstalled : result? k (es ++ [.uninstalled k]) = none := by
  simp [result?, Event.session?]

@[simp]
theorem result?_other : result? k (es ++ [.other]) = result? k es := by
  simp [result?, Event.session?]

/-- Other sessions do not change what one remembers. -/
theorem result?_concat_ne {e : Event} (h : e.session? ≠ some k) :
    result? k (es ++ [e]) = result? k es := by
  simp [result?, h]

end Events

/-! ### What is true in every state -/

/-- What is true of the reporter of a session that remembers `result`. -/
structure Known (marker : String) (wd : Place) (result : Option (Option PriorCrash))
    (r : Reporter) : Prop where
  markerPath : r.markerPath = marker
  apart : Path.Apart wd marker r.logPath
  installed : r.isInstalled = r.capture.isSome
  idle : r.capture = none → result = none
  held : r.capture.isSome = true → ∃ found, r.prior = some found ∧ result = some found

/-- What is true after the events `es`, if there was `before` at the path of the marker. -/
structure Sound (marker : String) (wd : Place) (before : Option Bytes) (es : List Event)
    (w : World) : Prop where
  platform : w.platform.Guarded wd marker (leftover before es)
  known : ∀ k r, w.sessions[k]? = some (some r) → Known marker wd (result? k es) r
  /-- Nothing is remembered for sessions to come. -/
  fresh : ∀ k, w.sessions.length ≤ k → result? k es = none

theorem Known.new {marker : String} {wd : Place} {logPath : String}
    (h : Path.Apart wd marker logPath) (version : String) (registry : Nat)
    (interceptors : List Interceptor) :
    Known marker wd none (.new marker logPath version registry interceptors) where
  markerPath := rfl
  apart := h
  installed := rfl
  idle _ := rfl
  held hc := nomatch hc

/-- A fault that is recorded does not change whether the reporter is installed. -/
theorem Known.recordFault {marker : String} {wd : Place} {result : Option (Option PriorCrash)}
    {r : Reporter} (h : Known marker wd result r) (fault : Fault) (p : Platform) :
    Known marker wd result (r.recordFault fault p).1 := by
  have hinst := (Reporter.isInstalled_recordFault r fault p).trans h.installed
  rw [Reporter.recordFault_eq] at hinst ⊢
  exact ⟨h.markerPath, h.apart, hinst, h.idle, h.held⟩

theorem Elsewhere.guarded {marker : String} {wd : Place} {e : Option Bytes} {p p' : Platform}
    (he : Elsewhere marker p p') (h : p.Guarded wd marker e) : p'.Guarded wd marker e where
  workingDirectory := he.workingDirectory.trans h.workingDirectory
  wellFormed := he.wellFormed
  holds := by
    cases e with
    | none => exact he.find?.trans h.holds
    | some b => exact he.read.trans h.holds
  apart c hc := by
    have ha := he.apart c hc
    rwa [he.workingDirectory, h.workingDirectory] at ha

/-- What a session gets when it is installed or uninstalled. -/
theorem Known.answers {marker : String} {wd : Place} {result : Option (Option PriorCrash)}
    {r : Reporter} {e : Option Bytes} {p : Platform} (h : Known marker wd result r)
    (hg : p.Guarded wd marker e) :
    (∀ found, result = some found →
      ∃ p', r.install p = (r, p', .ok found) ∧ p'.files = p.files) ∧
    (result = none → r.uninstall p = (r, p) ∧
      (r.FilesWork p → r.Arms p →
        ∃ r' p', r.install p = (r', p', .ok (e.map PriorCrash.ofBytes)))) := by
  obtain rfl := h.markerPath
  cases hc : r.capture with
  | none =>
      have hres := h.idle hc
      have hidle : r.isInstalled = false := by rw [h.installed, hc]; rfl
      refine ⟨fun _ hf => (nomatch hres.symm.trans hf), fun _ => ⟨?_, fun hf ha => ?_⟩⟩
      · exact Reporter.uninstall_of_not_installed hidle
      · rw [← (Reporter.guarded_takePrior hg hf.read).2]
        exact Reporter.install_of_arms hc ha
  | some c =>
      have hinst : r.capture.isSome = true := by rw [hc]; rfl
      obtain ⟨found, hprior, hres⟩ := h.held hinst
      refine ⟨fun found' hf => ?_, fun hno => (nomatch hres.symm.trans hno)⟩
      obtain rfl := Option.some.inj (hres.symm.trans hf)
      rw [Reporter.install_of_installed hinst, hprior]
      exact ⟨_, rfl, rfl⟩

namespace Sound
variable {marker : String} {wd : Place} {before : Option Bytes} {es : List Event} {w : World}
  {p' : Platform} {k : Nat} {r : Reporter} {r' : Option Reporter} {e : Event}

/-- Sessions are left alone. -/
theorem platform_only (h : Sound marker wd before es w)
    (hp : p'.Guarded wd marker (leftover before es)) :
    Sound marker wd before (es ++ [.other]) { w with platform := p' } where
  platform := by
    rw [leftover_other]
    exact hp
  known k r hk := by
    rw [result?_other]
    exact h.known k r hk
  fresh k hk := by
    rw [result?_other]
    exact h.fresh k hk

/-- A session begins. -/
theorem launch (h : Sound marker wd before es w) (hr : Known marker wd none r) :
    Sound marker wd before (es ++ [.other]) { w with sessions := w.sessions ++ [some r] } where
  platform := by
    rw [leftover_other]
    exact h.platform
  known k s hk := by
    rw [result?_other]
    rcases Nat.lt_trichotomy k w.sessions.length with hlt | rfl | hgt
    · rw [List.getElem?_append_left hlt] at hk
      exact h.known k s hk
    · -- Nobody had this number before, so nothing is remembered for it.
      rw [List.getElem?_concat_length] at hk
      cases hk
      rw [h.fresh _ (Nat.le_refl _)]
      exact hr
    · rw [List.getElem?_eq_none (by rw [List.length_append]; exact hgt)] at hk
      cases hk
  fresh k hk := by
    rw [List.length_append] at hk
    rw [result?_other]
    exact h.fresh k (Nat.le_of_add_right_le hk)

/-- One session does something. -/
theorem set (h : Sound marker wd before es w) (hk : w.sessions[k]? = some (some r))
    (hp : p'.Guarded wd marker (leftover before (es ++ [e])))
    (hr : ∀ s, r' = some s → Known marker wd (result? k (es ++ [e])) s)
    (he : ∀ j, j ≠ k → e.session? ≠ some j) :
    Sound marker wd before (es ++ [e]) ⟨p', w.sessions.set k r'⟩ where
  platform := hp
  known j s hj := by
    by_cases hjk : j = k
    · subst hjk
      rw [List.getElem?_set_self (List.getElem?_eq_some_iff.1 hk).1] at hj
      exact hr s (Option.some.inj hj)
    · rw [List.getElem?_set_ne (Ne.symm hjk)] at hj
      rw [result?_concat_ne (he j hjk)]
      exact h.known j s hj
  fresh j hj := by
    rw [List.length_set] at hj
    have hlt := (List.getElem?_eq_some_iff.1 hk).1
    rw [result?_concat_ne (he j (by omega))]
    exact h.fresh j hj

/-- One session does something that leaves the evidence alone. -/
theorem set_other (h : Sound marker wd before es w) (hk : w.sessions[k]? = some (some r))
    (hp : p'.Guarded wd marker (leftover before es))
    (hr : ∀ s, r' = some s → Known marker wd (result? k es) s) :
    Sound marker wd before (es ++ [.other]) ⟨p', w.sessions.set k r'⟩ := by
  refine h.set hk (by rw [leftover_other]; exact hp) (fun s hs => ?_) fun _ _ h => nomatch h
  rw [result?_other]
  exact hr s hs

end Sound

theorem Step.sound {marker : String} {wd : Place} {before : Option Bytes} {es : List Event}
    {w w' : World} {e : Event} (h : Sound marker wd before es w) (hs : Step marker w e w') :
    Sound marker wd before (es ++ [e]) w' := by
  -- Only `install` and `uninstall` change what is left; the others keep off the marker's place.
  cases hs with
  | launch ha =>
      rw [h.platform.workingDirectory] at ha
      exact h.launch (.new ha _ _ _)
  | @install k r r' p' found hk hn hf hi =>
      have hr := h.known k r hk
      obtain rfl := hr.markerPath
      have hg := Reporter.guarded_install hn hi h.platform hf hr.apart
      obtain ⟨-, ⟨interceptors, rfl⟩, -⟩ := Reporter.install_ok hn hi
      refine h.set hk (by rw [leftover_installed]; exact hg) ?_ fun j hj he =>
        hj (Option.some.inj he).symm
      rintro s ⟨⟩
      rw [result?_installed]
      exact ⟨rfl, hr.apart, rfl, nofun, fun _ => ⟨found, rfl, rfl⟩⟩
  | reinstall _ hk hi =>
      have hr := h.known _ _ hk
      rw [Reporter.install_of_installed hi]
      refine h.set_other hk (h.platform.untouched ⟨rfl, rfl⟩) ?_
      rintro s ⟨⟩
      exact hr
  | @uninstall k r hk hi =>
      have hr := h.known k r hk
      obtain rfl := hr.markerPath
      obtain ⟨interceptors, heq⟩ := @Reporter.uninstall_eq _ w.platform hi
      have hg := Reporter.guarded_uninstall hi h.platform
      refine h.set hk (by rw [leftover_uninstalled]; exact hg) ?_ fun j hj he =>
        hj (Option.some.inj he).symm
      rintro s ⟨⟩
      rw [result?_uninstalled, heq]
      exact ⟨rfl, hr.apart, rfl, fun _ => rfl, nofun⟩
  | pass _ hk hi =>
      have hr := h.known _ _ hk
      rw [Reporter.uninstall_of_not_installed hi]
      refine h.set_other hk h.platform ?_
      rintro s ⟨⟩
      exact hr
  | recordFault _ hk fault =>
      have hr := h.known _ _ hk
      refine h.set_other hk (Reporter.guarded_recordFault h.platform hr.apart fault) ?_
      rintro s ⟨⟩
      exact hr.recordFault fault w.platform
  | panic message thread => exact h.platform_only (h.platform.panic message thread)
  | drop _ hk => exact h.set_other hk (Reporter.guarded_drop h.platform) nofun
  | kill _ hk => exact h.set_other hk h.platform nofun
  | elsewhere he => exact h.platform_only (he.guarded h.platform)

/-- An installation returns what was left. -/
theorem Step.found {marker : String} {wd : Place} {before : Option Bytes} {es : List Event}
    {w w' : World} {k : Nat} {own : Marker} {found : Option PriorCrash}
    (hs : Step marker w (.installed k own found) w') (h : Sound marker wd before es w) :
    found = (leftover before es).map PriorCrash.ofBytes := by
  cases hs with
  | install _ hk hn hf hi =>
      obtain rfl := (h.known _ _ hk).markerPath
      exact Reporter.found_install hn hi h.platform hf

/-! ### The protocol -/

/-- No session was launched yet. -/
structure Initial (marker : String) (before : Option Bytes) (w : World) : Prop where
  wellFormed : w.platform.files.WellFormed
  holds : w.platform.files.Holds marker before
  captures : w.platform.captures = []
  sessions : w.sessions = []

theorem Initial.sound {marker : String} {before : Option Bytes} {w : World}
    (h : Initial marker before w) :
    Sound marker w.platform.files.workingDirectory before [] w where
  platform :=
    ⟨rfl, h.wellFormed, h.holds, fun c hc => nomatch (h.captures ▸ hc : c ∈ [])⟩
  known k r hk := by
    rw [h.sessions] at hk
    cases hk
  fresh _ _ := rfl

/-- **The protocol of the marker.**  Along every run of sessions that share the path of a marker:
* a file is there if and only if the last installation or uninstallation was an installation, or
  there was none and a file was there in the beginning; its contents are then the marker of the
  session that was installed, or what they were;
* an installation returns what was left, and the next one will, if file operations succeed and no
  interceptor refuses;
* what an installation leaves is what the next one returns if none was uninstalled in between, and
  no installation after that returns it again;
* a reporter that is installed repeats its result when it is installed again, and one that is not
  stays as it is when it is uninstalled; neither changes a file. -/
theorem marker_protocol {marker : String} {before : Option Bytes} {w₀ w : World}
    {es : List Event} (h₀ : Initial marker before w₀) (h : Run (Step marker) w₀ es w) :
    (w.platform.files.pathExists marker = (leftover before es).isSome ∧
      ∀ b, leftover before es = some b → w.platform.files.read marker = .ok b) ∧
    (∀ past k own found rest, es = past ++ .installed k own found :: rest →
      found = (leftover before past).map PriorCrash.ofBytes) ∧
    (∀ past k own found mid k' own' found' rest,
      es = past ++ .installed k own found :: (mid ++ .installed k' own' found' :: rest) →
      (Quiet mid → found' = some (.ofBytes own.bytes)) ∧
      (¬ Quiet mid → ∀ left, found' = (leftover left mid).map PriorCrash.ofBytes)) ∧
    (∀ k r, w.sessions[k]? = some (some r) →
      (∀ found, result? k es = some found →
        ∃ p', r.install w.platform = (r, p', .ok found) ∧ p'.files = w.platform.files) ∧
      (result? k es = none →
        r.uninstall w.platform = (r, w.platform) ∧
        (r.FilesWork w.platform → r.Arms w.platform → ∃ r' p', r.install w.platform =
          (r', p', .ok ((leftover before es).map PriorCrash.ofBytes))))) := by
  have hsound : ∀ {es w}, Run (Step marker) w₀ es w →
      Sound marker w₀.platform.files.workingDirectory before es w :=
    fun h => h.history h₀.sound fun hs hst => hst.sound hs
  have hfound : ∀ past k own found rest, es = past ++ .installed k own found :: rest →
      found = (leftover before past).map PriorCrash.ofBytes := by
    intro past k own found rest hes
    subst hes
    obtain ⟨w₁, w₂, h₁, hst, -⟩ := h.split_at
    exact hst.found (hsound h₁)
  have hs := hsound h
  refine ⟨⟨hs.platform.holds.pathExists hs.platform.wellFormed, fun b hb => ?_⟩, hfound, ?_, ?_⟩
  · exact (hb ▸ hs.platform.holds : w.platform.files.Holds marker (some b))
  · intro past k own found mid k' own' found' rest hes
    have hlater := hfound (past ++ [.installed k own found] ++ mid) k' own' found' rest
      (by rw [hes]; simp)
    -- What was there before the first of the two is out of the way by now.
    rw [leftover_append, leftover_installed] at hlater
    refine ⟨fun hq => ?_, fun hq left => ?_⟩
    · rw [hlater, hq.leftover_eq]
      rfl
    · rw [hlater, leftover_of_not_quiet hq left]
  · intro k r hk
    exact (hs.known k r hk).answers hs.platform

/-- In one directory a log is apart from a marker of another name. -/
theorem apart_log : Path.Apart [] "m" "log" :=
  .of_parent (by decide : Path.parent? "log" = some "") (by decide) (by decide) (by decide)

section Root
variable {t : Tree}

theorem inRoot : Reporter.InRoot "m" "m" where
  origin t h := by
    rw [Tree.origin, if_neg (by simp), if_neg (by decide), if_neg (by decide), h]
    rfl
  names := by decide
  ne_dot := by decide
  ne_dots := by decide
  short := by decide
  slash := by decide

/-- In the root directory a marker that is missing is not found. -/
theorem read_root (h : t.workingDirectory = []) (hn : t.Holds "m" none) :
    t.read "m" = .error (.system .notFound) := inRoot.read h hn

/-- It can be written. -/
theorem write_root (h : t.workingDirectory = []) (hn : t.Holds "m" none) (m : Marker) :
    (Marker.write t "m" m).2 = .ok () := inRoot.write h hn m

/-- So there a session can be installed. -/
theorem filesWork_root {p : Platform} {e : Option Bytes} (h : p.Guarded [] "m" e)
    (version : String) : (Reporter.new "m" "log" version 0 []).FilesWork p :=
  Reporter.InRoot.filesWork inRoot h

end Root

/-- The first session is killed, and the second finds its marker. -/
theorem marker_protocol_killed :
    let platform : Platform := .new (.new []) 0 ⟨0, 0, by decide⟩ 7 "" ""
    let first : Reporter := .new "m" "log" "1" 0 []
    let own := first.ownMarker platform
    ∃ w own', Run (Step "m") ⟨platform, []⟩ [.other, .installed 0 own none, .other, .other,
        .installed 1 own' (some (.ofBytes own.bytes))] w ∧
      w.platform.files.pathExists "m" = true := by
  intro platform first own
  let second : Reporter := .new "m" "log" "2" 0 []
  have h₀ : Initial "m" none ⟨platform, []⟩ :=
    ⟨Tree.wellFormed_new [], Tree.find?_new [] _, rfl, rfl⟩
  have hplatform : platform.Guarded [] "m" none := h₀.sound.platform
  have hlaunched : Run (Step "m") ⟨platform, []⟩ [.other] ⟨platform, [some first]⟩ :=
    .one (.launch _ apart_log)
  obtain ⟨-, -, -, hsessions⟩ := marker_protocol h₀ hlaunched
  have hwork := filesWork_root hplatform "1"
  obtain ⟨first', p, hfirst⟩ := ((hsessions 0 first rfl).2 rfl).2 hwork rfl
  have hp : p.Guarded [] "m" (some own.bytes) :=
    Reporter.guarded_install rfl hfirst hplatform hwork apart_log
  have hinstalled : Step "m" ⟨platform, [some first]⟩ (.installed 0 own none) ⟨p, [some first']⟩ :=
    .install _ 0 rfl rfl hwork hfirst
  have hkilled : Step "m" ⟨p, [some first']⟩ .other ⟨p, [none]⟩ := .kill _ 0 rfl
  have hlaunch : Step "m" ⟨p, [none]⟩ .other ⟨p, [none, some second]⟩ :=
    .launch ⟨p, [none]⟩ (hp.workingDirectory ▸ apart_log)
  have hlaunched' : Run (Step "m") ⟨platform, []⟩ [.other, .installed 0 own none, .other, .other]
      ⟨p, [none, some second]⟩ :=
    hlaunched.trans (.more hinstalled (.more hkilled (.one hlaunch)))
  obtain ⟨-, -, -, hsessions'⟩ := marker_protocol h₀ hlaunched'
  have hwork' := filesWork_root hp "2"
  obtain ⟨second', p', hsecond⟩ := ((hsessions' 1 second rfl).2 rfl).2 hwork' rfl
  have h := hlaunched'.trans (.one (.install _ 1 rfl rfl hwork' hsecond))
  exact ⟨_, _, h, (marker_protocol h₀ h).1.1⟩

end Vigil.Sessions
