import Mathlib.Data.List.Induction
import Vigil.Proofs.Health.Flight

/-!
# Health — a context that never answered

As long as no ping is acknowledged, two things are known of a context: when it was first pinged, and
how many of its pings timed out (`Silent`).  The wait starts with the first ping and goes on with
every later one, and no timeout is held to be settled, so each of them counts.

**A context that never answered** (`status_never_answered`): its status follows from these two
things, by `Status.neverAnswered`.
-/

namespace Vigil.Health

/-- How a context does that never answered: when it was first pinged and how many pings timed out
decide. -/
def Status.neverAnswered (t : Thresholds) (first : Option Tick) (timeouts : Nat) (now : Tick) :
    Status :=
  match first with
  | none => .unresponsive
  | some time =>
    if t.maxTimeouts ≤ timeouts ∨ t.fail < now - time then .unresponsive
    else if t.warn < now - time then .degraded (now - time)
    else .healthy

/-- What the probe knows after events without an acknowledgement. -/
structure Silent (t : Thresholds) (h : History) (p : Probe) : Prop where
  thresholds : p.thresholds = t
  latency : p.latency = none
  acked : p.acked = none
  timeouts : p.timeouts = h.timedOut.length
  /-- The wait is that for the first ping. -/
  phase : match h.issueTimes.head? with
    | none => p.phase = .idle
    | some first => ∃ newest, p.phase = .awaiting first newest

namespace Silent
variable {t : Thresholds} {h : History} {p : Probe}

theorem new (t : Thresholds) : Silent t [] (.new t) := ⟨rfl, rfl, rfl, rfl, rfl⟩

/-- A later ping leaves the wait as it is. -/
theorem issue (s : Silent t h p) (generation : Nat) (now : Tick) :
    Silent t (h ++ [.issued generation now]) (p.issue now) where
  thresholds := s.thresholds
  latency := s.latency
  acked := s.acked
  timeouts := by
    rw [History.timedOut_concat]
    exact s.timeouts.trans (congrArg List.length (List.append_nil _).symm)
  phase := by
    have hphase := s.phase
    rw [History.issueTimes_concat, List.head?_append]
    cases hfirst : h.issueTimes.head? with
    | none =>
        rw [hfirst] at hphase
        exact ⟨p.nextGeneration, by simp only [Probe.issue, hphase]⟩
    | some first =>
        rw [hfirst] at hphase
        obtain ⟨newest, hphase⟩ := hphase
        exact ⟨p.nextGeneration, by simp only [Probe.issue, hphase]⟩

/-- No timeout is one of a ping that is settled. -/
theorem timeOut_eq (s : Silent t h p) (generation : Nat) :
    p.timeOut generation = ({ p with timeouts := p.timeouts + 1 }, true) := by
  have hsettled : p.isSettled generation = false := by rw [Probe.isSettled, s.acked]
  rw [Probe.timeOut, hsettled]
  rfl

theorem timeOut (s : Silent t h p) (generation : Nat) :
    Silent t (h ++ [.timedOut generation]) (p.timeOut generation).1 := by
  have htimes : History.issueTimes (h ++ [.timedOut generation]) = h.issueTimes := by
    rw [History.issueTimes_concat]
    exact List.append_nil _
  rw [s.timeOut_eq]
  refine ⟨s.thresholds, s.latency, s.acked, ?_, ?_⟩
  · rw [History.timedOut_concat, List.length_append, ← s.timeouts]
    rfl
  · rw [htimes]
    exact s.phase

theorem after (s : Silent t h p) {e : PingEvent} (he : e.acknowledged? = none) :
    Silent t (h ++ [e]) (p.after e) := by
  cases e with
  | issued generation now => exact s.issue generation now
  | acknowledged => cases he
  | timedOut generation => exact s.timeOut generation

/-- So the probe is after any events without an acknowledgement. -/
theorem of_history {h : History} (hack : h.acknowledged = []) :
    Silent t h (h.foldl Probe.after (.new t)) := by
  induction h using List.reverseRecOn with
  | nil => exact .new t
  | append_singleton h e ih =>
      rw [History.acknowledged_concat, List.append_eq_nil_iff] at hack
      rw [List.foldl_append]
      exact (ih hack.1).after (Option.toList_eq_nil_iff.1 hack.2)

/-- What the probe knows decides on the status. -/
theorem statusAt (s : Silent t h p) (now : Tick) :
    p.statusAt now = .neverAnswered t h.issueTimes.head? h.timedOut.length now := by
  have hphase := s.phase
  rw [Probe.statusAt, Status.neverAnswered.eq_def, s.thresholds, s.timeouts]
  by_cases hcount : t.maxTimeouts ≤ h.timedOut.length
  · rw [if_pos hcount]
    cases h.issueTimes.head? with
    | none => rfl
    | some first => exact (if_pos (Or.inl hcount)).symm
  · rw [if_neg hcount]
    cases hfirst : h.issueTimes.head? with
    | none =>
        rw [hfirst] at hphase
        simp only [hphase, Probe.statusByLatency, s.latency]
    | some first =>
        rw [hfirst] at hphase
        obtain ⟨newest, hphase⟩ := hphase
        simp only [hphase, Probe.classify, hcount, false_or]
        by_cases hfail : t.fail < now - first
        · simp only [if_pos hfail]
        · by_cases hwarn : t.warn < now - first
          · simp only [if_neg hfail, if_pos hwarn]
          · simp only [if_neg hfail, if_neg hwarn, Probe.statusByLatency, s.latency, hphase]

end Silent

/-! ### The status -/

/-- **A context that never answered.**  Whatever pings are issued and time out, in any order and
under any bounds, as long as none is acknowledged:
* each timeout counts, and the status is that by the issue time of the first ping and the number of
  timeouts;
* so pings that are issued after the first one do not change what the status is at any time;
* along every run of a monitor, this is what it says of a name since its registration. -/
theorem status_never_answered :
    (∀ (t : Thresholds) (h : History), h.acknowledged = [] →
      (∀ generation, ((h.foldl Probe.after (.new t)).timeOut generation).2 = true) ∧
      (h.foldl Probe.after (.new t)).timeouts = h.timedOut.length ∧
      ∀ now, (h.foldl Probe.after (.new t)).statusAt now =
        .neverAnswered t h.issueTimes.head? h.timedOut.length now) ∧
    (∀ (t : Thresholds) (h later : History), h.acknowledged = [] → h.issueTimes ≠ [] →
      (∀ e ∈ later, ∃ generation time, e = .issued generation time) →
      ∀ now, ((h ++ later).foldl Probe.after (.new t)).statusAt now =
        (h.foldl Probe.after (.new t)).statusAt now) ∧
    (∀ {defaults : Thresholds} {interval pingTimeout : Span} {es : List Event} {f : Flight},
      Run Step (.new defaults interval pingTimeout) es f →
      ∀ before since name r, es = before ++ .registered name r :: since →
        (∀ e ∈ since, ¬ e.Replaces name) → (history name r.epoch since).acknowledged = [] →
        f.monitor.timeouts? name = some (history name r.epoch since).timedOut.length ∧
        ∀ now, f.monitor.status? name now = some (.neverAnswered r.probe.thresholds
          (history name r.epoch since).issueTimes.head?
          (history name r.epoch since).timedOut.length now)) := by
  refine ⟨fun t h hack => ?_, fun t h later hack hpinged hlater now => ?_, ?_⟩
  · have hs : Silent t h _ := .of_history hack
    exact ⟨fun generation => by rw [hs.timeOut_eq], hs.timeouts, hs.statusAt⟩
  · -- Of all that is counted only the issue times grow, and the first of them is there already.
    have hgrow : ∀ {α : Type} (g : PingEvent → Option α), (∀ n time, g (.issued n time) = none) →
        (h ++ later).filterMap g = h.filterMap g := fun g hg => by
      have hnone : later.filterMap g = [] := List.filterMap_eq_nil_iff.2 fun e he => by
        obtain ⟨n, time, rfl⟩ := hlater e he
        exact hg n time
      rw [List.filterMap_append, hnone, List.append_nil]
    have hfirst : (History.issueTimes (h ++ later)).head? = h.issueTimes.head? := by
      rw [History.issueTimes, List.filterMap_append, List.head?_append]
      exact Option.or_of_isSome (List.isSome_head?.2 hpinged)
    have htimeouts : History.timedOut (h ++ later) = h.timedOut := hgrow _ fun _ _ => rfl
    have hs : Silent t (h ++ later) _ :=
      .of_history ((hgrow PingEvent.acknowledged? fun _ _ => rfl).trans hack)
    rw [hs.statusAt, (Silent.of_history hack).statusAt, hfirst, htimeouts]
  · intro defaults interval pingTimeout es f hrun before since name r hes hn hack
    subst hes
    obtain ⟨f₁, f₂, -, hst, hrun⟩ := hrun.split_at
    cases hst with
    | register _ context t =>
        have hr := get?_of_run hrun
          ((f₁.monitor.get?_register name context t name).trans (if_pos rfl)) hn
        have hs : Silent t _ _ := .of_history hack
        exact ⟨by rw [Monitor.timeouts?, hr]; exact congrArg some hs.timeouts,
          fun now => by rw [Monitor.status?, hr]; exact congrArg some (hs.statusAt now)⟩

/-- The wait of two cycles is that for the first ping, whose timeout is the only one so far. -/
theorem status_never_answered_slow :
    let bounds : Thresholds := ⟨1000, 3000, 2⟩
    let p₀ : Ping := ⟨"ui", 0, 0, 0⟩
    let p₁ : Ping := ⟨"ui", 0, 1, 900⟩
    let since : List Event := [.issued [p₀], .issued [p₁], .timedOut p₀]
    ∃ f, Run Step (.new bounds 900 950) (.registered "ui" ⟨0, "main", .new bounds⟩ :: since) f ∧
      f.monitor.status? "ui" 1500 = some (.degraded 1500) ∧
      ([.issued 0 0, .timedOut 0, .issued 1 900].foldl Probe.after (.new bounds)).statusAt 3001 =
        .unresponsive := by
  intro bounds p₀ p₁ since
  let f₁ : Flight := ⟨((Flight.new bounds 900 950).monitor.register "ui" "main" bounds).1, []⟩
  let f₂ : Flight := ⟨(f₁.monitor.cycle 0).1, [p₀]⟩
  let f₃ : Flight := ⟨(f₂.monitor.cycle 900).1, [p₀, p₁]⟩
  let f₄ : Flight := ⟨({ f₃.monitor with checks := [⟨p₁, 950⟩] }.check ⟨p₀, 950⟩).1, [p₀, p₁]⟩
  have h₁ : Step (.new bounds 900 950) (.registered "ui" ⟨0, "main", .new bounds⟩) f₁ :=
    .register _ "ui" "main" bounds
  have h₂ : Step f₁ (.issued [p₀]) f₂ := .cycle f₁ rfl
  have h₃ : Step f₂ (.issued [p₁]) f₃ := .cycle f₂ rfl
  have h₄ : Step f₃ (.timedOut p₀) f₄ := @Step.check f₃ [] [⟨p₁, 950⟩] ⟨p₀, 950⟩ rfl
  have hrun : Run Step (.new bounds 900 950)
      (.registered "ui" ⟨0, "main", .new bounds⟩ :: since) f₄ :=
    .more h₁ (.more h₂ (.more h₃ (.one h₄)))
  obtain ⟨hprobe, -, hmonitor⟩ := status_never_answered
  refine ⟨f₄, hrun, ?_, ?_⟩
  · exact (hmonitor hrun [] since "ui" _ rfl (by simp [since, Event.Replaces]) (by decide)).2 1500
  · exact (hprobe bounds [.issued 0 0, .timedOut 0, .issued 1 900] rfl).2.2 3001

end Vigil.Health
