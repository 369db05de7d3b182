import Vigil.Proofs.Task.Run
import Vigil.Task.Sweeper

/-!
# Task — a sweeper and its registry

A sweeper keeps to a timetable.  After it has looked at its ticker the next sweep lies ahead, and no
further than one interval; and whatever a sweep leaves has ended no longer than the retention ago.
So every task that has ended is met by a sweep within the retention and one interval.

* `fire_early`, `fire_late`: a ticker that is looked at, before the next tick is due and from then
  on.
* `run_eq`: a sweeper that runs is one use of its registry.
* `Sweeping`: the next sweep is at most one interval away.  `Swept`: since some time, no task ended
  longer than the retention before one interval to the next sweep.
* `run`, `after`, `later`: a sweeper that runs, any use of the registry, and the passage of time
  keep both.
* `age_le` (`Swept.age_le`): while no sweep is due, no task ended long ago.
-/

namespace Vigil

namespace Ticker
variable {t : Ticker} {now : Tick}

theorem fire_early (h : t.period = 0 ∨ now < t.next) : t.fire now = (0, t) := by
  have hdue : t.due now = 0 := by rw [due, if_pos h]
  rw [fire, hdue]
  rfl

/-- The first time ahead on a timetable. -/
theorem lt_timetable {now next period : Nat} (hpos : 0 < period) (h : next ≤ now) :
    now < next + ((now - next) / period + 1) * period ∧
      next + ((now - next) / period + 1) * period ≤ now + period := by
  have hlt := Nat.lt_mul_div_succ (now - next) hpos
  have hle := Nat.div_mul_le_self (now - next) period
  rw [Nat.mul_comm] at hlt
  rw [Nat.add_mul, Nat.one_mul] at hlt ⊢
  omega

/-- Whatever becomes of the ticks that were missed, the next one lies ahead, and no further than one
period. -/
theorem fire_late (hpos : 0 < t.period) (h : t.next ≤ now) :
    ∃ n next, t.fire now = (n + 1, { t with next }) ∧ now < next ∧ next ≤ now + t.period := by
  have hdue : t.due now = (now - t.next) / t.period + 1 := by
    rw [due, if_neg (not_or.2 ⟨Nat.pos_iff_ne_zero.1 hpos, Nat.not_lt.2 h⟩)]
  rw [fire, hdue, if_neg (Nat.succ_ne_zero _)]
  split
  next => exact ⟨0, _, rfl, Nat.lt_add_of_pos_right hpos, Nat.le_refl _⟩
  next => exact ⟨_, _, rfl, lt_timetable hpos h⟩

/-- The two cases. -/
theorem early_or_late (t : Ticker) (now : Tick) :
    (t.period = 0 ∨ now < t.next) ∨ 0 < t.period ∧ t.next ≤ now := by
  by_cases h : t.period = 0 ∨ now < t.next
  · exact Or.inl h
  · exact Or.inr ⟨Nat.pos_of_ne_zero fun hp => h (Or.inl hp),
      Nat.le_of_not_lt fun hlt => h (Or.inr hlt)⟩

theorem lt_deadline?_fire {d : Tick} (h : (t.fire now).2.deadline? = some d) : now < d := by
  rcases t.early_or_late now with hearly | ⟨hpos, hlate⟩
  · rw [fire_early hearly, deadline?] at h
    split at h
    next => cases h
    next hpos =>
      cases h
      exact hearly.resolve_left hpos
  · obtain ⟨_, next, hfire, hlt, -⟩ := fire_late hpos hlate
    rw [hfire, deadline?, if_neg (Nat.pos_iff_ne_zero.1 hpos)] at h
    cases h
    exact hlt

theorem period_fire (t : Ticker) (now : Tick) : (t.fire now).2.period = t.period := by
  rcases t.early_or_late now with hearly | ⟨hpos, hlate⟩
  · rw [fire_early hearly]
  · obtain ⟨_, _, hfire, -, -⟩ := fire_late hpos hlate
    rw [hfire]

/-- The next tick stays at most one period ahead. -/
theorem next_fire_le (h : t.next ≤ now + t.period) : (t.fire now).2.next ≤ now + t.period := by
  rcases t.early_or_late now with hearly | ⟨hpos, hlate⟩
  · rw [fire_early hearly]
    exact h
  · obtain ⟨_, next, hfire, -, hle⟩ := fire_late hpos hlate
    rw [hfire]
    exact hle

end Ticker

namespace Task
variable {now since : Tick} {r : Registry} {s : Sweeper}

namespace Sweeper

/-- What it does to the registry when it looks at its ticker. -/
def act (s : Sweeper) (now : Tick) : Act :=
  if s.isLive ∧ (s.ticker.fire now).1 ≠ 0 then .swept else .idle

/-- The sweeper after it has looked at its ticker. -/
def fired (s : Sweeper) (now : Tick) : Sweeper :=
  if s.isLive then { s with ticker := (s.ticker.fire now).2 } else s

theorem run_eq (s : Sweeper) (r : Registry) (now : Tick) :
    s.run r now = (s.fired now, r.after ⟨now, s.act now⟩) := by
  rw [run, fired, act]
  cases s.isLive with
  | false => rfl
  | true =>
      by_cases hn : (s.ticker.fire now).1 = 0
      · simp [hn, Registry.after]
      · simp [hn, Registry.after]

theorem isLive_fired (s : Sweeper) (now : Tick) : (s.fired now).isLive = s.isLive := by
  rw [fired]
  split <;> rfl

/-- After it has looked at its ticker nothing is due. -/
theorem lt_deadline?_fired {d : Tick} (h : (s.fired now).deadline? = some d) : now < d := by
  rw [deadline?, isLive_fired, fired] at h
  split at h
  next => exact Ticker.lt_deadline?_fire h
  next => cases h

/-- One that is cancelled does nothing any more. -/
theorem act_of_not_live (h : s.isLive = false) (now : Tick) : s.act now = .idle := by
  rw [act, h]
  rfl

end Sweeper

/-- A sweeper that runs, for a registry: the next sweep is at most one interval away. -/
structure Sweeping (now : Tick) (r : Registry) (s : Sweeper) : Prop where
  live : s.isLive = true
  period : s.ticker.period = r.sweepInterval
  interval_pos : 0 < r.sweepInterval
  next_le : s.ticker.next ≤ now + r.sweepInterval

/-- The first sweep since `since` is still to come, or every task that has ended will be met by the
next sweep within the retention and one interval. -/
def Swept (since : Tick) (r : Registry) (s : Sweeper) : Prop :=
  s.ticker.next ≤ since + r.sweepInterval ∨
    ∀ id x t, r.get? id = some x → x.endedAt = some t →
      s.ticker.next ≤ t + r.retention + r.sweepInterval

namespace Sweeping

theorem new (now : Tick) (h : 0 < r.sweepInterval) :
    Sweeping now r (.new r.sweepInterval now) :=
  ⟨rfl, rfl, h, Nat.le_refl _⟩

theorem later {time : Tick} (h : Sweeping now r s) (hle : now ≤ time) : Sweeping time r s :=
  { h with next_le := Nat.le_trans h.next_le (Nat.add_le_add_right hle _) }

/-- Any use of the registry leaves the sweeper to its timetable. -/
theorem after (h : Sweeping now r s) (e : Event) : Sweeping now (r.after e) s where
  live := h.live
  period := by rw [r.sweepInterval_after]; exact h.period
  interval_pos := by rw [r.sweepInterval_after]; exact h.interval_pos
  next_le := by rw [r.sweepInterval_after]; exact h.next_le

/-- What the sweeper does when it looks at its ticker: nothing before the next sweep is due, and one
sweep from then on. -/
theorem run_cases (h : Sweeping now r s) :
    s.run r now = (s, r) ∨
    ∃ next, next ≤ now + r.sweepInterval ∧
      s.run r now = ({ s with ticker := { s.ticker with next } }, r.sweep now) := by
  have hlive : ¬ (!s.isLive) = true := by rw [h.live]; exact Bool.false_ne_true
  by_cases hearly : now < s.ticker.next
  · refine Or.inl ?_
    rw [Sweeper.run, if_neg hlive, Ticker.fire_early (Or.inr hearly)]
    rfl
  · obtain ⟨n, next, hfire, -, hle⟩ :=
      Ticker.fire_late (h.period ▸ h.interval_pos) (Nat.le_of_not_lt hearly)
    refine Or.inr ⟨next, h.period ▸ hle, ?_⟩
    rw [Sweeper.run, if_neg hlive, hfire]
    rfl

theorem run (h : Sweeping now r s) : Sweeping now (s.run r now).2 (s.run r now).1 := by
  rcases h.run_cases with hrun | ⟨next, hle, hrun⟩
  · rw [hrun]
    exact h
  · rw [hrun]
    exact ⟨h.live, h.period, h.interval_pos, hle⟩

end Sweeping

namespace Swept

/-- Nothing is asked of the time before. -/
theorem of_sweeping (h : Sweeping now r s) : Swept now r s := Or.inl h.next_le

/-- Less is asked of a later time. -/
theorem mono (h : Swept since r s) {time : Tick} (hle : since ≤ time) : Swept time r s :=
  h.imp_left fun hnext => Nat.le_trans hnext (Nat.add_le_add_right hle _)

/-- What ends during a use of the registry ends at its reading of the clock. -/
theorem after (h : Swept since r s) {e : Event} (hs : Sweeping e.reading r s) :
    Swept since (r.after e) s := by
  rw [Swept, r.sweepInterval_after, r.retention_after]
  refine h.imp_right fun hall id x t hx ht => ?_
  rcases Registry.record_after hx with ⟨_, -, rfl⟩ | ⟨_, _, -, -, -, rfl⟩ | hk
  · cases ht
  · cases ht
    exact Nat.le_trans hs.next_le (Nat.add_le_add_right (Nat.le_add_right _ _) _)
  · exact hall id x t hk ht

theorem run (h : Swept since r s) (hs : Sweeping now r s) :
    Swept since (s.run r now).2 (s.run r now).1 := by
  rcases hs.run_cases with hrun | ⟨next, hle, hrun⟩
  · rw [hrun]
    exact h
  · rw [hrun]
    refine Or.inr fun id x t hx ht => ?_
    -- What a sweep leaves did not end longer than the retention ago.
    rw [Registry.get?_sweep, Option.filter_eq_some_iff, Record.expired, ht] at hx
    have hage := hx.2
    simp only [Bool.not_eq_true', decide_eq_false_iff_not, Nat.not_lt] at hage
    exact Nat.le_trans hle (Nat.add_le_add_right (Nat.sub_le_iff_le_add'.1 hage) _)

/-- While no sweep is due, no task that is held ended longer ago than the retention and one
interval, unless the time to look back to lies less than one interval back. -/
theorem age_le (h : Swept since r s) (hdue : now < s.ticker.next)
    (hsince : since + r.sweepInterval ≤ now) {id : String} {x : Record} {t : Tick}
    (hx : r.get? id = some x) (ht : x.endedAt = some t) :
    now - t ≤ r.retention + r.sweepInterval := by
  rcases h with hfirst | hall
  · exact absurd (Nat.lt_of_lt_of_le hdue hfirst) (Nat.not_lt.2 hsince)
  · have hnext := hall id x t hx ht
    rw [Nat.sub_le_iff_le_add', ← Nat.add_assoc]
    exact Nat.le_of_lt (Nat.lt_of_lt_of_le hdue hnext)

end Swept
end Task
end Vigil
