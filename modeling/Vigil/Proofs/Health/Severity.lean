import Mathlib.Data.List.Induction
import Vigil.Proofs.Health.Flight
import Vigil.Proofs.Health.Wait

/-!
# Health — how bad a status is

Statuses in order: healthy, degraded, unresponsive.  Without an acknowledgement a probe can only
count further timeouts and wait longer (`Recorded.stalls`), and both of these make its status worse.
The last round trip counts for the status only until the wait is longer than `warn`.

**Silence** (`severity_unanswered`): the status gets better in one case only, when the last round
trip was longer than `fail` and the wait, now longer than `warn`, takes its place.  This is so as
long as the timeouts fit into their counter, which has 32 bits (`Probe.wrapped`).
-/

namespace Vigil.Health

/-- How bad a status is. -/
def Status.severity : Status → Nat
  | .healthy => 0
  | .degraded _ => 1
  | .unresponsive => 2

/-- Nothing is worse than no response. -/
theorem Status.eq_unresponsive {s : Status} (h : 1 < s.severity) : s = .unresponsive := by
  cases s with
  | unresponsive => rfl
  | healthy | degraded => exact absurd h (by simp [severity])

/-! ### The status by its severity -/

/-- How bad it is to have timed out so often, to have waited so long, and to have been so slow
before. -/
def grade (t : Thresholds) (timeouts : Nat) (wait : Span) (pace : Nat) : Nat :=
  if t.maxTimeouts ≤ timeouts ∨ t.fail < wait then 2 else if t.warn < wait then 1 else pace

/-- More timeouts and a longer wait are no better, unless the wait takes the place of what was worse
than it. -/
theorem grade_lt_iff {t : Thresholds} {timeouts timeouts' pace : Nat} {wait wait' : Span}
    (ht : timeouts ≤ timeouts') (hw : wait ≤ wait') (hp : pace ≤ 2) :
    grade t timeouts' wait' pace < grade t timeouts wait pace ↔
      pace = 2 ∧ timeouts' < t.maxTimeouts ∧ wait ≤ t.warn ∧ t.warn < wait' ∧ wait' ≤ t.fail := by
  rw [grade, grade]
  grind

namespace Probe

/-- How long an answer has been waited for. -/
def waited (p : Probe) (now : Tick) : Span :=
  match p.phase with
  | .idle => 0
  | .awaiting since _ => now - since

/-- The probe as it is with its timeouts in a counter of 32 bits. -/
def wrapped (p : Probe) : Probe := { p with timeouts := p.timeouts % UInt32.size }

/-- The counter counts as long as it has room. -/
theorem wrapped_eq {p : Probe} (h : p.timeouts < UInt32.size) : p.wrapped = p := by
  rw [wrapped, Nat.mod_eq_of_lt h]

/-- How bad the last round trip was, where there was one. -/
def pace (p : Probe) : Nat := p.latency.elim 0 fun l => (classify p.thresholds l).severity

theorem severity_classify (t : Thresholds) (wait : Span) :
    (classify t wait).severity = if t.fail < wait then 2 else if t.warn < wait then 1 else 0 := by
  rw [classify]
  split
  next => rfl
  next => split <;> rfl

theorem pace_eq_two_iff {p : Probe} :
    p.pace = 2 ↔ ∃ latency, p.latency = some latency ∧ p.thresholds.fail < latency := by
  rw [pace]
  cases p.latency with
  | none => simp
  | some latency =>
      simp only [Option.elim_some, severity_classify, Option.some.injEq, exists_eq_left']
      split
      next h => exact iff_of_true rfl h
      next h =>
        refine iff_of_false ?_ h
        split <;> decide

theorem pace_le (p : Probe) : p.pace ≤ 2 := by
  rw [pace]
  cases p.latency with
  | none => exact Nat.zero_le 2
  | some latency =>
      simp only [Option.elim_some, severity_classify]
      split
      next => exact Nat.le_refl 2
      next => split <;> decide

/-- The status of a context that was pinged: timeouts and the wait come before the last round
trip. -/
theorem severity_statusAt {p : Probe} (hp : p.latency = none → p.phase ≠ .idle) (now : Tick) :
    (p.statusAt now).severity = grade p.thresholds p.timeouts (p.waited now) p.pace := by
  have hlatency : p.statusByLatency.severity = p.pace := by
    rw [statusByLatency, pace]
    cases hl : p.latency with
    | some latency => rfl
    | none =>
        cases hphase : p.phase with
        | idle => exact absurd hphase (hp hl)
        | awaiting => rfl
  rw [statusAt, grade]
  by_cases ht : p.thresholds.maxTimeouts ≤ p.timeouts
  · rw [if_pos ht, if_pos (Or.inl ht)]
    rfl
  · rw [if_neg ht]
    cases hphase : p.phase with
    | idle => simp [waited, hphase, ht, hlatency]
    | awaiting since newest =>
        simp only [waited, hphase, ht, false_or, classify]
        by_cases hf : p.thresholds.fail < now - since
        · rw [if_pos hf, if_pos hf]
          rfl
        · rw [if_neg hf, if_neg hf]
          by_cases hw : p.thresholds.warn < now - since
          · rw [if_pos hw, if_pos hw]
            rfl
          · rw [if_neg hw, if_neg hw]
            exact hlatency

/-- A wait between the two bounds is what the status tells. -/
theorem degraded_of_waited {p : Probe} {now : Tick} (ht : p.timeouts < p.thresholds.maxTimeouts)
    (hw : p.thresholds.warn < p.waited now) (hf : p.waited now ≤ p.thresholds.fail) :
    p.statusAt now = .degraded (p.waited now) := by
  rw [statusAt, if_neg (Nat.not_le.2 ht)]
  cases hphase : p.phase with
  | idle =>
      rw [waited, hphase] at hw
      exact absurd hw (Nat.not_lt_zero _)
  | awaiting since newest =>
      simp only [waited, hphase] at hw hf ⊢
      rw [classify, if_neg (Nat.not_lt.2 hf), if_pos hw]

end Probe

/-! ### What silence does to a probe -/

/-- A probe goes on from `now` without an acknowledgement: it keeps what it knows of round trips,
counts timeouts, and waits on, or begins to wait. -/
structure Stalls (now : Tick) (p p' : Probe) : Prop where
  thresholds : p'.thresholds = p.thresholds
  latency : p'.latency = p.latency
  timeouts : p.timeouts ≤ p'.timeouts
  awaiting : ∀ since newest, p.phase = .awaiting since newest →
    ∃ newest', p'.phase = .awaiting since newest'
  idle : p.phase = .idle →
    p'.phase = .idle ∨ ∃ since newest, now ≤ since ∧ p'.phase = .awaiting since newest

namespace Stalls
variable {now later : Tick} {p p₁ p' : Probe}

theorem refl (now : Tick) (p : Probe) : Stalls now p p :=
  ⟨rfl, rfl, Nat.le_refl _, fun _ newest h => ⟨newest, h⟩, Or.inl⟩

theorem issue (h : Stalls now p p₁) {time : Tick} (ht : now ≤ time) :
    Stalls now p (p₁.issue time) where
  thresholds := h.thresholds
  latency := h.latency
  timeouts := h.timeouts
  awaiting since newest hp := by
    obtain ⟨_, h₁⟩ := h.awaiting since newest hp
    exact ⟨p₁.nextGeneration, by simp only [Probe.issue, h₁]⟩
  idle hp := by
    refine Or.inr ?_
    rcases h.idle hp with h₁ | ⟨since, newest, hle, h₁⟩
    · exact ⟨time, p₁.nextGeneration, ht, by simp only [Probe.issue, h₁]⟩
    · exact ⟨since, p₁.nextGeneration, hle, by simp only [Probe.issue, h₁]⟩

theorem timeOut (h : Stalls now p p₁) (generation : Nat) :
    Stalls now p (p₁.timeOut generation).1 := by
  rw [Probe.timeOut]
  split
  next => exact h
  next => exact ⟨h.thresholds, h.latency, Nat.le_succ_of_le h.timeouts, h.awaiting, h.idle⟩

/-- The wait goes on. -/
theorem waited_le (h : Stalls now p p') (hle : now ≤ later) : p.waited now ≤ p'.waited later := by
  cases hp : p.phase with
  | idle =>
      rw [Probe.waited, hp]
      exact Nat.zero_le _
  | awaiting since newest =>
      obtain ⟨_, hp'⟩ := h.awaiting since newest hp
      simp only [Probe.waited, hp, hp']
      exact Nat.sub_le_sub_right hle since

/-- The last round trip counts as before. -/
theorem pace_eq (h : Stalls now p p') : p'.pace = p.pace := by
  rw [Probe.pace, Probe.pace, h.latency, h.thresholds]

/-- A context that was pinged stays so. -/
theorem pinged (h : Stalls now p p') (hp : p.latency = none → p.phase ≠ .idle) :
    p'.latency = none → p'.phase ≠ .idle := by
  intro hl
  cases hphase : p.phase with
  | idle => exact absurd hphase (hp (h.latency.symm.trans hl))
  | awaiting since newest =>
      obtain ⟨_, hp'⟩ := h.awaiting since newest hphase
      rw [hp']
      exact nofun

end Stalls

/-! ### Histories without an acknowledgement -/

/-- Events between `now` and `later`, none of them an acknowledgement. -/
structure Unanswered (events : History) (now later : Tick) : Prop where
  le : now ≤ later
  acknowledged : events.acknowledged = []
  issueTimes : ∀ time ∈ events.issueTimes, now ≤ time ∧ time ≤ later

namespace Recorded
variable {thresholds : Thresholds} {h events : History} {p p' : Probe} {now later : Tick}

/-- The last event was recorded last. -/
theorem of_concat {e : PingEvent} (r : Recorded thresholds (h ++ [e]) p') :
    ∃ p, Recorded thresholds h p ∧ p' = p.after e := by
  generalize hl : h ++ [e] = l at r
  cases r with
  | new => exact absurd hl (List.append_ne_nil_of_right_ne_nil _ (List.cons_ne_nil _ _))
  | issue r | acknowledge r | timeOut r =>
      obtain ⟨rfl, he⟩ := List.append_inj' hl rfl
      cases he
      exact ⟨_, r, rfl⟩

theorem eq_new (r : Recorded thresholds [] p) : p = .new thresholds := by
  generalize hl : ([] : History) = l at r
  cases r with
  | new => rfl
  | issue | acknowledge | timeOut =>
      exact absurd hl.symm (List.append_ne_nil_of_right_ne_nil _ (List.cons_ne_nil _ _))

/-- A history has one probe that recorded it. -/
theorem unique (r : Recorded thresholds h p) (r' : Recorded thresholds h p') : p' = p := by
  induction h using List.reverseRecOn generalizing p p' with
  | nil => rw [r.eq_new, r'.eq_new]
  | append_singleton h e ih =>
      obtain ⟨q, rq, rfl⟩ := r.of_concat
      obtain ⟨q', rq', rfl⟩ := r'.of_concat
      rw [ih rq rq']

/-- A context that was pinged has answered, or an answer is waited for. -/
theorem pinged (r : Recorded thresholds h p) (hi : h.issued ≠ []) :
    p.latency = none → p.phase ≠ .idle := by
  intro hl hp
  have hphase := r.summary.phase
  rw [List.getLast?_eq_some_getLast hi] at hphase
  simp only at hphase
  split at hphase
  next hack =>
    -- The newest ping was acknowledged, so there is a round trip.
    obtain ⟨e, he, hg⟩ := List.mem_filterMap.1 hack
    cases e with
    | issued | timedOut => cases hg
    | acknowledged generation issuedAt time =>
        rw [r.summary.latency, List.getLast?_eq_none_iff] at hl
        have hm : time - issuedAt ∈ h.roundTrips := List.mem_filterMap.2 ⟨_, he, rfl⟩
        rw [hl] at hm
        cases hm
  next =>
    obtain ⟨since, hphase⟩ := hphase
    cases hp.symm.trans hphase

/-- **What silence does.**  Events without an acknowledgement let the probe go on as it was. -/
theorem stalls (r : Recorded thresholds h p) (r' : Recorded thresholds (h ++ events) p')
    (hu : Unanswered events now later) : Stalls now p p' := by
  obtain ⟨-, hack, htimes⟩ := hu
  induction events using List.reverseRecOn generalizing p' with
  | nil =>
      rw [List.append_nil] at r'
      rw [r.unique r']
      exact .refl now p
  | append_singleton events e ih =>
      rw [← List.append_assoc] at r'
      obtain ⟨q, rq, rfl⟩ := r'.of_concat
      rw [History.acknowledged_concat, List.append_eq_nil_iff] at hack
      rw [History.issueTimes_concat] at htimes
      have hstalls := ih rq hack.1 fun time ht => htimes time (List.mem_append_left _ ht)
      cases e with
      | issued generation time =>
          exact hstalls.issue (htimes time (List.mem_append_right _ (List.mem_singleton_self _))).1
      | acknowledged => cases hack.2
      | timedOut generation => exact hstalls.timeOut generation

end Recorded

/-! ### What silence does to the status -/

/-- The wait takes the place of a bad round trip: that was longer than `fail`, and the wait comes to
be longer than `warn`, but not yet than `fail`. -/
structure Overtakes (p p' : Probe) (now later : Tick) : Prop where
  latency : ∃ latency, p.latency = some latency ∧ p.thresholds.fail < latency
  timeouts : p'.timeouts < p.thresholds.maxTimeouts
  before : p.waited now ≤ p.thresholds.warn
  after : p.thresholds.warn < p'.waited later
  notLate : p'.waited later ≤ p.thresholds.fail

/-- **Silence.**  A context was pinged by `now`, and none of its pings is acknowledged until
`later`, nor have there been more timeouts by then than their counter holds.  Its status is then no
better than it was, but for one case: the wait has taken the place of a round trip that was longer
than `fail`.  The context goes from unresponsive to degraded then. -/
theorem severity_unanswered {thresholds : Thresholds} {h events : History} {p p' : Probe}
    {now later : Tick} (r : Recorded thresholds h p) (r' : Recorded thresholds (h ++ events) p')
    (hi : h.issued ≠ []) (hu : Unanswered events now later) (hcount : p'.timeouts < UInt32.size) :
    ((p'.wrapped.statusAt later).severity < (p.wrapped.statusAt now).severity ↔
        Overtakes p p' now later) ∧
      (Overtakes p p' now later →
        p.wrapped.statusAt now = .unresponsive ∧
          p'.wrapped.statusAt later = .degraded (p'.waited later)) := by
  have hs := r.stalls r' hu
  rw [Probe.wrapped_eq hcount, Probe.wrapped_eq (Nat.lt_of_le_of_lt hs.timeouts hcount)]
  have hp := Probe.severity_statusAt (r.pinged hi) now
  have hp' := Probe.severity_statusAt (hs.pinged (r.pinged hi)) later
  rw [hs.thresholds, hs.pace_eq] at hp'
  have hlt := grade_lt_iff (t := p.thresholds) hs.timeouts (hs.waited_le hu.le) p.pace_le
  rw [← hp, ← hp', Probe.pace_eq_two_iff] at hlt
  have hover : (p'.statusAt later).severity < (p.statusAt now).severity ↔
      Overtakes p p' now later :=
    hlt.trans ⟨fun ⟨h₁, h₂, h₃, h₄, h₅⟩ => ⟨h₁, h₂, h₃, h₄, h₅⟩,
      fun o => ⟨o.latency, o.timeouts, o.before, o.after, o.notLate⟩⟩
  refine ⟨hover, fun o => ?_⟩
  have hdegraded : p'.statusAt later = .degraded (p'.waited later) := by
    refine Probe.degraded_of_waited ?_ ?_ ?_ <;> rw [hs.thresholds]
    · exact o.timeouts
    · exact o.after
    · exact o.notLate
  have hworse := hover.2 o
  rw [hdegraded] at hworse
  exact ⟨Status.eq_unresponsive hworse, hdegraded⟩

/-- The first ping is not answered; a second one is issued, and the first times out.  What was
healthy is degraded by then. -/
theorem severity_unanswered_slow :
    let bounds : Thresholds := ⟨1000, 3000, 3⟩
    let h : History := [.issued 0 0]
    let events : History := [.issued 1 500, .timedOut 0]
    ∃ p p', Recorded bounds h p ∧ Recorded bounds (h ++ events) p' ∧ Unanswered events 400 2000 ∧
      p'.timeouts < UInt32.size ∧
      p.wrapped.statusAt 400 = .healthy ∧ p'.wrapped.statusAt 2000 = .degraded 2000 ∧
      ¬ (p'.wrapped.statusAt 2000).severity < (p.wrapped.statusAt 400).severity := by
  intro bounds h events
  let p := (Probe.new bounds).issue 0
  let p' := ((p.issue 500).timeOut 0).1
  have r : Recorded bounds h p := .issue .new 0
  have r' : Recorded bounds (h ++ events) p' := .timeOut (.issue r 500) (by decide) (by decide)
  have hu : Unanswered events 400 2000 := ⟨by decide, rfl, by decide⟩
  refine ⟨p, p', r, r', hu, by decide, by decide, by decide, fun hlt => ?_⟩
  obtain ⟨latency, hl, -⟩ :=
    ((severity_unanswered r r' (by decide) hu (by decide)).1.1 hlt).latency
  cases hl

/-- The last round trip took five seconds, and a ping is outstanding: the context is unresponsive,
but only degraded once that ping has waited for more than a second. -/
theorem severity_falls :
    let bounds : Thresholds := ⟨1000, 3000, 3⟩
    let h : History := [.issued 0 0, .acknowledged 0 0 5000, .issued 1 5000]
    ∃ p, Recorded bounds h p ∧ bounds.warn < bounds.fail ∧ 0 < bounds.maxTimeouts ∧
      h.Outstanding 1 ∧ Unanswered [] 5000 6500 ∧
      p.statusAt 5000 = .unresponsive ∧ p.statusAt 6500 = .degraded 1500 ∧
      (p.statusAt 6500).severity < (p.statusAt 5000).severity := by
  intro bounds h
  let p := (((Probe.new bounds).issue 0).acknowledge 0 0 5000).issue 5000
  have r : Recorded bounds h p :=
    .issue (.acknowledge (.issue .new 0) 5000 (by decide) (by decide)) 5000
  exact ⟨p, r, by decide, by decide, ⟨by decide, by decide⟩, ⟨by decide, rfl, nofun⟩, by decide,
    by decide, by decide⟩

end Vigil.Health
