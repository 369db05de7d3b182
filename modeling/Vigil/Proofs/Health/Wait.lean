import Vigil.Proofs.Health.History

/-!
# Health — since when an answer is waited for

A ping is outstanding while neither it nor a later one is acknowledged.  A probe keeps one time for
all the pings that are outstanding.  It belongs to one of them (`Recorded.issued_waitStart`): to the
oldest, or to the newest of those issued before the last acknowledgement, whichever is later.

**The wait** (`wait_since`): the time is that of the oldest outstanding ping exactly if the last
acknowledgement left none outstanding but the newest.  Then each outstanding ping is seen to be
late; otherwise the older ones are passed over (`wait_restarted`).
-/

namespace Vigil.Health
namespace History

/-- The ping is later than all that were acknowledged. -/
def Outstanding (h : History) (generation : Nat) : Prop :=
  generation ∈ h.issued ∧ ∀ acked ∈ h.acknowledged, acked < generation

/-- How many pings had been issued when the last acknowledgement came. -/
def issuedByAck (h : History) : Nat := h.issued.length - h.sinceAck.issued.length

/-- Of the pings issued before the last acknowledgement none is outstanding but the newest. -/
def CaughtUp (h : History) : Prop :=
  ∀ generation, h.Outstanding generation → generation < h.issuedByAck →
    generation + 1 = h.issuedByAck

/-- The first generation later than all that were acknowledged. -/
def firstOutstanding (h : History) : Nat := h.acknowledged.max?.elim 0 (· + 1)

/-- The ping from whose issue the wait is counted. -/
def waitStart (h : History) : Nat := max h.firstOutstanding (h.issuedByAck - 1)

variable {h : History}

theorem firstOutstanding_le_iff {n : Nat} :
    h.firstOutstanding ≤ n ↔ ∀ acked ∈ h.acknowledged, acked < n := by
  rw [firstOutstanding]
  cases hmax : h.acknowledged.max? with
  | none => simp [List.max?_eq_none_iff.1 hmax]
  | some greatest =>
      obtain ⟨hmem, hle⟩ := List.max?_eq_some_iff.1 hmax
      exact ⟨fun hlt acked ha => Nat.lt_of_le_of_lt (hle acked ha) hlt, fun hlt => hlt _ hmem⟩

theorem outstanding_iff {generation : Nat} :
    h.Outstanding generation ↔ generation ∈ h.issued ∧ h.firstOutstanding ≤ generation := by
  rw [Outstanding, firstOutstanding_le_iff]

theorem issuedByAck_le (h : History) : h.issuedByAck ≤ h.issued.length := Nat.sub_le _ _

/-- Only an acknowledgement moves the start of the wait. -/
theorem waitStart_concat {e : PingEvent} (he : e.acknowledged? = none) :
    waitStart (h ++ [e]) = h.waitStart := by
  have hack : firstOutstanding (h ++ [e]) = h.firstOutstanding := by
    rw [firstOutstanding, acknowledged_concat, he]
    exact congrArg (·.max?.elim 0 (· + 1)) (List.append_nil _)
  have hby : issuedByAck (h ++ [e]) = h.issuedByAck := by
    have hsince : sinceAck (h ++ [e]) = h.sinceAck ++ [e] := by
      rw [sinceAck_concat, he]
      rfl
    rw [issuedByAck, hsince, issued_concat, issued_concat h.sinceAck e, List.length_append,
      List.length_append]
    exact Nat.add_sub_add_right _ _ _
  rw [waitStart, waitStart, hack, hby]

/-- An acknowledgement lets the wait start no earlier than with the newest ping. -/
theorem waitStart_acknowledged (generation : Nat) (issuedAt now : Tick) :
    waitStart (h ++ [.acknowledged generation issuedAt now]) =
      max (firstOutstanding (h ++ [.acknowledged generation issuedAt now]))
        (h.issued.length - 1) := by
  rw [waitStart, issuedByAck, sinceAck_concat, issued_concat]
  simp [PingEvent.issued?, PingEvent.acknowledged?, issued]

end History

/-! ### The pings that are outstanding -/

namespace Summary
variable {h : History} {p : Probe}

theorem mem_issued_iff (s : Summary h p) {generation : Nat} :
    generation ∈ h.issued ↔ generation < p.nextGeneration := by
  rw [s.issued, List.mem_range]

theorem length_issued (s : Summary h p) : h.issued.length = p.nextGeneration := by
  rw [s.issued, List.length_range]

/-- While an answer is waited for, the newest ping is outstanding. -/
theorem newest_outstanding (s : Summary h p)
    (hacks : ∀ acked ∈ h.acknowledged, acked ∈ h.issued) {since : Tick} {newest : Nat}
    (hp : p.phase = .awaiting since newest) :
    p.nextGeneration = newest + 1 ∧ h.firstOutstanding ≤ newest := by
  have hphase := s.phase
  cases hlast : h.issued.getLast? with
  | none =>
      rw [hlast] at hphase
      cases hphase.symm.trans hp
  | some last =>
      simp only [hlast] at hphase
      split at hphase
      next => cases hphase.symm.trans hp
      next hno =>
        obtain ⟨since', hphase⟩ := hphase
        cases hphase.symm.trans hp
        have hlt := s.mem_issued_iff.1 (List.mem_of_getLast? hlast)
        refine ⟨?_, History.firstOutstanding_le_iff.2 fun acked ha => ?_⟩
        · have hnext := s.le_newest hlast (s.mem_issued_iff.2 (Nat.sub_one_lt_of_lt hlt))
          omega
        · have hne : acked ≠ newest := fun he => hno (he ▸ ha)
          exact Nat.lt_of_le_of_ne (s.le_newest hlast (hacks acked ha)) hne

/-- While none is waited for, the next ping will be the oldest outstanding. -/
theorem firstOutstanding_of_idle (s : Summary h p)
    (hacks : ∀ acked ∈ h.acknowledged, acked ∈ h.issued) (hp : p.phase = .idle) :
    h.firstOutstanding = p.nextGeneration := by
  have hle : h.firstOutstanding ≤ p.nextGeneration :=
    History.firstOutstanding_le_iff.2 fun acked ha => s.mem_issued_iff.1 (hacks acked ha)
  have hphase := s.phase
  cases hlast : h.issued.getLast? with
  | none =>
      have hzero := s.length_issued
      rw [List.getLast?_eq_none_iff.1 hlast, List.length_nil] at hzero
      omega
  | some last =>
      simp only [hlast] at hphase
      split at hphase
      next hack =>
        have hlt := s.mem_issued_iff.1 (List.mem_of_getLast? hlast)
        have hnext := s.le_newest hlast (s.mem_issued_iff.2 (Nat.sub_one_lt_of_lt hlt))
        have hfirst := History.firstOutstanding_le_iff.1 (Nat.le_refl _) last hack
        omega
      next =>
        obtain ⟨since, hphase⟩ := hphase
        cases hphase.symm.trans hp

end Summary

namespace Recorded
variable {thresholds : Thresholds} {h : History} {p : Probe}

/-- When the newest ping was issued. -/
theorem issued_newest (r : Recorded thresholds h p) {newest : Nat}
    (hn : p.nextGeneration = newest + 1) : ∃ time, p.sentAt = some time ∧ .issued newest time ∈ h := by
  induction r with
  | new => cases hn
  | issue r now _ =>
      cases hn
      exact ⟨now, rfl, List.mem_append_right _ (List.mem_singleton_self _)⟩
  | acknowledge _ _ _ _ ih =>
      obtain ⟨time, hs, hm⟩ := ih hn
      exact ⟨time, hs, List.mem_append_left _ hm⟩
  | @timeOut h p generation _ _ _ ih =>
      have hfields : (p.timeOut generation).1.nextGeneration = p.nextGeneration ∧
          (p.timeOut generation).1.sentAt = p.sentAt := by
        rw [Probe.timeOut]
        split <;> exact ⟨rfl, rfl⟩
      obtain ⟨time, hs, hm⟩ := ih (hfields.1 ▸ hn)
      exact ⟨time, hfields.2.trans hs, List.mem_append_left _ hm⟩

/-- **The start of the wait.**  The time that is kept is when the ping `waitStart` was issued. -/
theorem issued_waitStart (r : Recorded thresholds h p) {since : Tick} {newest : Nat}
    (hp : p.phase = .awaiting since newest) : .issued h.waitStart since ∈ h := by
  induction r generalizing since newest with
  | new => cases hp
  | @issue h p r now ih =>
      rw [History.waitStart_concat rfl]
      cases hphase : p.phase with
      | awaiting since' newest' =>
          simp only [Probe.issue, hphase] at hp
          cases hp
          exact List.mem_append_left _ (ih hphase)
      | idle =>
          -- The new ping is the only one outstanding.
          simp only [Probe.issue, hphase] at hp
          cases hp
          have hfirst := r.summary.firstOutstanding_of_idle
            (fun _ => r.issued_of_acknowledged) hphase
          have hby := h.issuedByAck_le
          rw [r.summary.length_issued] at hby
          have hstart : h.waitStart = p.nextGeneration := by
            rw [History.waitStart, hfirst]
            omega
          rw [hstart]
          exact List.mem_append_right _ (List.mem_singleton_self _)
  | @acknowledge h p generation issuedAt r now hi ha _ =>
      have racked := r.acknowledge now hi ha
      obtain ⟨hnext, hfirst⟩ := racked.summary.newest_outstanding
        (fun _ => racked.issued_of_acknowledged) hp
      have hstart : History.waitStart (h ++ [.acknowledged generation issuedAt now]) = newest := by
        rw [History.waitStart_acknowledged, r.summary.length_issued,
          show p.nextGeneration = newest + 1 from hnext]
        omega
      rw [hstart]
      -- The wait now counts from the newest ping.
      obtain ⟨time, hsent, hm⟩ := r.issued_newest hnext
      refine List.mem_append_left _ ?_
      simp only [Probe.acknowledge, Probe.phaseAfter] at hp
      split at hp
      next => cases hp
      next =>
        split at hp
        next => cases hp
        next =>
          cases hp
          rw [hsent]
          exact hm
  | @timeOut h p generation r hi ht ih =>
      have hphase : (p.timeOut generation).1.phase = p.phase := by
        rw [Probe.timeOut]
        split <;> rfl
      rw [History.waitStart_concat rfl]
      exact List.mem_append_left _ (ih (hphase ▸ hp))

/-- Where the clock does not go back, an earlier ping was not issued later. -/
theorem issueTime_le (r : Recorded thresholds h p) (hmono : h.issueTimes.Pairwise (· ≤ ·))
    {g g' : Nat} {t t' : Tick} (hg : .issued g t ∈ h) (hg' : .issued g' t' ∈ h) (hle : g ≤ g') :
    t ≤ t' := by
  induction r with
  | new => cases hg
  | @issue h p r now ih =>
      rw [History.issueTimes_concat] at hmono
      obtain ⟨hmono, -, hlast⟩ := List.pairwise_append.1 hmono
      have hissued := fun {g t} (hm : PingEvent.issued g t ∈ h) =>
        r.summary.mem_issued_iff.1 (History.mem_issued hm)
      rcases List.mem_append.1 hg with h₁ | h₁ <;> rcases List.mem_append.1 hg' with h₂ | h₂
      · exact ih hmono h₁ h₂
      · cases List.mem_singleton.1 h₂
        exact hlast t (List.mem_filterMap.2 ⟨.issued g t, h₁, rfl⟩) _ (List.mem_singleton_self _)
      · cases List.mem_singleton.1 h₁
        exact absurd (hissued h₂) (Nat.not_lt.2 hle)
      · cases List.mem_singleton.1 h₁
        cases List.mem_singleton.1 h₂
        exact Nat.le_refl _
  | acknowledge _ _ _ _ ih | timeOut _ _ _ ih =>
      rw [History.issueTimes_concat] at hmono
      refine ih (List.pairwise_append.1 hmono).1 ?_ ?_
      · exact (List.mem_append.1 hg).resolve_right fun hm => (nomatch List.mem_singleton.1 hm)
      · exact (List.mem_append.1 hg').resolve_right fun hm => (nomatch List.mem_singleton.1 hm)

end Recorded

/-! ### What a wait says of a context -/

namespace Probe
variable {p : Probe} {since now : Tick} {newest : Nat}

theorem unresponsive_of_wait (hp : p.phase = .awaiting since newest)
    (hw : p.thresholds.fail < now - since) : p.statusAt now = .unresponsive := by
  rw [statusAt]
  split
  next => rfl
  next => simp only [hp, classify, if_pos hw]

theorem not_healthy_of_wait (hp : p.phase = .awaiting since newest)
    (hw : p.thresholds.warn < now - since) : p.statusAt now ≠ .healthy := by
  rw [statusAt]
  split
  next => exact fun h => (nomatch h)
  next =>
    by_cases hf : p.thresholds.fail < now - since <;> simp [hp, classify, hw, hf]

end Probe

/-- **The wait.**  While an answer is waited for, the time that is kept is when the ping `start` was
issued.  That is an outstanding one; it is the oldest of them exactly if the last acknowledgement
left none outstanding but the newest.  A ping issued no earlier than `start` is seen to be late:
outstanding for longer than `fail` it makes the context unresponsive, and for longer than `warn`
no longer healthy. -/
theorem wait_since {thresholds : Thresholds} {h : History} {p : Probe}
    (r : Recorded thresholds h p) {since : Tick} {newest : Nat}
    (hp : p.phase = .awaiting since newest) :
    ∃ oldest start,
      (h.Outstanding oldest ∧ ∀ generation, h.Outstanding generation → oldest ≤ generation) ∧
      h.Outstanding start ∧ .issued start since ∈ h ∧
      (start = oldest ↔ h.CaughtUp) ∧
      (h.issueTimes.Pairwise (· ≤ ·) → ∀ generation time now, .issued generation time ∈ h →
        start ≤ generation →
        (p.thresholds.fail < now - time → p.statusAt now = .unresponsive) ∧
        (p.thresholds.warn < now - time → p.statusAt now ≠ .healthy)) := by
  have hstart := r.issued_waitStart hp
  obtain ⟨hnext, hfirst⟩ := r.summary.newest_outstanding (fun _ => r.issued_of_acknowledged) hp
  have hout : ∀ g, h.Outstanding g ↔ g < newest + 1 ∧ h.firstOutstanding ≤ g := fun g => by
    rw [History.outstanding_iff, r.summary.mem_issued_iff, hnext]
  refine ⟨h.firstOutstanding, h.waitStart, ⟨?_, fun g hg => ((hout g).1 hg).2⟩, ?_, hstart, ?_, ?_⟩
  · exact (hout _).2 ⟨Nat.lt_succ_of_le hfirst, Nat.le_refl _⟩
  · exact History.outstanding_iff.2 ⟨History.mem_issued hstart, Nat.le_max_left _ _⟩
  · have hby := h.issuedByAck_le
    rw [r.summary.length_issued, hnext] at hby
    simp only [History.CaughtUp, hout, History.waitStart]
    constructor
    · intro heq g hg hlt
      omega
    · intro hcaught
      -- The oldest outstanding ping shows whether there is another one before the newest.
      have holdest := hcaught h.firstOutstanding ⟨Nat.lt_succ_of_le hfirst, Nat.le_refl _⟩
      omega
  · intro hmono generation time now hm hle
    have htime := r.issueTime_le hmono hstart hm hle
    have hwait : now - time ≤ now - since := Nat.sub_le_sub_left htime now
    exact ⟨fun hw => Probe.unresponsive_of_wait hp (Nat.lt_of_lt_of_le hw hwait),
      fun hw => Probe.not_healthy_of_wait hp (Nat.lt_of_lt_of_le hw hwait)⟩

/-- Three pings are outstanding when the second is acknowledged: the third is left, and its wait
counts from its own issue, also after a fourth. -/
theorem wait_since_caught_up :
    let bounds : Thresholds := ⟨1000, 3000, 3⟩
    let h : History := [.issued 0 0, .issued 1 100, .issued 2 900, .acknowledged 1 100 950,
      .issued 3 1900]
    ∃ p, Recorded bounds h p ∧ p.phase = .awaiting 900 3 ∧ h.CaughtUp ∧
      p.statusAt 4000 = .unresponsive := by
  intro bounds h
  let p := ((((Probe.new bounds).issue 0).issue 100).issue 900 |>.acknowledge 1 100 950).issue 1900
  have r : Recorded bounds h p :=
    .issue (.acknowledge (.issue (.issue (.issue .new 0) 100) 900) 950 (by decide) (by decide)) 1900
  have hcaught : h.CaughtUp := by
    intro g hg hlt
    have hfirst := (History.outstanding_iff.1 hg).2
    rw [show h.firstOutstanding = 2 from rfl] at hfirst
    rw [show h.issuedByAck = 3 from rfl] at hlt ⊢
    omega
  have hp : p.phase = .awaiting 900 3 := rfl
  obtain ⟨oldest, start, -, -, hstart, -, hlate⟩ := wait_since r hp
  have hle : start ≤ 2 := by
    simp [h] at hstart
    omega
  exact ⟨p, r, hp, hcaught, (hlate (by decide) 2 900 4000 (by decide) hle).1 (by decide)⟩

/-- The first of three pings is acknowledged: the wait for the second is counted from the issue of
the third, and the context is held to be slow where it is unresponsive. -/
theorem wait_restarted :
    let bounds : Thresholds := ⟨1000, 3000, 3⟩
    let h : History := [.issued 0 0, .issued 1 100, .issued 2 900, .acknowledged 0 0 950]
    ∃ p, Recorded bounds h p ∧ h.Outstanding 1 ∧ p.phase = .awaiting 900 2 ∧
      p.statusAt 1500 = .healthy ∧ bounds.warn < 1500 - 100 ∧
      p.statusAt 3500 = .degraded 2600 ∧ bounds.fail < 3500 - 100 := by
  intro bounds h
  let p := (((Probe.new bounds).issue 0).issue 100).issue 900 |>.acknowledge 0 0 950
  have r : Recorded bounds h p :=
    .acknowledge (.issue (.issue (.issue .new 0) 100) 900) 950 (by decide) (by decide)
  exact ⟨p, r, ⟨by decide, by decide⟩, rfl, by decide, by decide, by decide, by decide⟩

end Vigil.Health
