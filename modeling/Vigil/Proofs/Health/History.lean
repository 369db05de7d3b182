import Vigil.Health.Probe

/-!
# Health — the history of a probe

What happens to the pings of one registration, as a list of events, and the probe that records it.
`Recorded` says which histories there are: pings are issued one after the other, and each of them
is acknowledged at most once and times out at most once, in whatever order.

**The summary** (`Recorded.summary`): each field of the probe is a function of the history.
-/

namespace Vigil.Health

/-- Something that happens to a ping. -/
inductive PingEvent where
  | issued (generation : Nat) (time : Tick)
  | acknowledged (generation : Nat) (issuedAt now : Tick)
  /-- It was checked when its time was over. -/
  | timedOut (generation : Nat)
  deriving DecidableEq, Repr

/-- What happened to the pings, in order. -/
abbrev History := List PingEvent

namespace PingEvent

/-- The generation that was issued. -/
def issued? : PingEvent → Option Nat
  | issued generation _ => some generation
  | _ => none

/-- When a ping was issued. -/
def issueTime? : PingEvent → Option Tick
  | issued _ time => some time
  | _ => none

/-- The generation that was acknowledged. -/
def acknowledged? : PingEvent → Option Nat
  | acknowledged generation _ _ => some generation
  | _ => none

/-- How long an acknowledgement took. -/
def roundTrip? : PingEvent → Option Span
  | acknowledged _ issuedAt now => some (now - issuedAt)
  | _ => none

/-- The generation that timed out. -/
def timedOut? : PingEvent → Option Nat
  | timedOut generation => some generation
  | _ => none

end PingEvent

/-! ### Views of a history -/

namespace History

/-- The generations that were issued, in order. -/
def issued (h : History) : List Nat := h.filterMap PingEvent.issued?

/-- The times at which pings were issued, in order. -/
def issueTimes (h : History) : List Tick := h.filterMap PingEvent.issueTime?

/-- The generations that were acknowledged, in the order of the acknowledgements. -/
def acknowledged (h : History) : List Nat := h.filterMap PingEvent.acknowledged?

/-- The round trips, in the order of the acknowledgements. -/
def roundTrips (h : History) : List Span := h.filterMap PingEvent.roundTrip?

/-- The generations that timed out, in order. -/
def timedOut (h : History) : List Nat := h.filterMap PingEvent.timedOut?

/-- What happened since the last acknowledgement. -/
def sinceAck (h : History) : History :=
  (h.reverse.takeWhile fun e => e.acknowledged?.isNone).reverse

/-- The ping is later than all that were acknowledged, and timed out since the last
acknowledgement. -/
def overdue (h : History) (generation : Nat) : Bool :=
  h.acknowledged.max?.all (· < generation) && h.sinceAck.timedOut.contains generation

variable (h : History) (e : PingEvent)

theorem filterMap_concat {α : Type} (f : PingEvent → Option α) :
    (h ++ [e]).filterMap f = h.filterMap f ++ (f e).toList := by
  rw [List.filterMap_append]
  cases he : f e <;> simp [he]

@[simp] theorem issued_concat : issued (h ++ [e]) = h.issued ++ e.issued?.toList :=
  filterMap_concat h e _

@[simp] theorem issueTimes_concat : issueTimes (h ++ [e]) = h.issueTimes ++ e.issueTime?.toList :=
  filterMap_concat h e _

@[simp] theorem acknowledged_concat :
    acknowledged (h ++ [e]) = h.acknowledged ++ e.acknowledged?.toList :=
  filterMap_concat h e _

@[simp] theorem roundTrips_concat : roundTrips (h ++ [e]) = h.roundTrips ++ e.roundTrip?.toList :=
  filterMap_concat h e _

@[simp] theorem timedOut_concat : timedOut (h ++ [e]) = h.timedOut ++ e.timedOut?.toList :=
  filterMap_concat h e _

theorem sinceAck_concat :
    sinceAck (h ++ [e]) = if e.acknowledged?.isNone then h.sinceAck ++ [e] else [] := by
  simp only [sinceAck, List.reverse_append, List.reverse_singleton, List.singleton_append,
    List.takeWhile_cons]
  split <;> simp

variable {h e}

theorem mem_issued {generation : Nat} {time : Tick} (hm : .issued generation time ∈ h) :
    generation ∈ h.issued :=
  List.mem_filterMap.2 ⟨_, hm, rfl⟩

/-- What timed out since the last acknowledgement timed out. -/
theorem mem_timedOut_of_sinceAck {generation : Nat} (hm : generation ∈ h.sinceAck.timedOut) :
    generation ∈ h.timedOut := by
  obtain ⟨e, he, hg⟩ := List.mem_filterMap.1 hm
  exact List.mem_filterMap.2
    ⟨e, List.mem_reverse.1 (List.takeWhile_subset _ (List.mem_reverse.1 he)), hg⟩

/-- A ping that did not time out is not overdue. -/
theorem overdue_eq_false {generation : Nat} (ht : generation ∉ h.timedOut) :
    h.overdue generation = false := by
  refine Bool.and_eq_false_imp.2 fun _ => ?_
  rw [← Bool.not_eq_true, List.contains_iff_mem]
  exact fun hm => ht (mem_timedOut_of_sinceAck hm)

/-- A ping is not overdue if it or a later one is acknowledged. -/
theorem overdue_of_le {generation acked : Nat} (ha : acked ∈ h.acknowledged)
    (hle : generation ≤ acked) : h.overdue generation = false := by
  cases hmax : h.acknowledged.max? with
  | none => exact absurd ha (by rw [List.max?_eq_none_iff.1 hmax]; exact List.not_mem_nil)
  | some greatest =>
      have hge : generation ≤ greatest :=
        Nat.le_trans hle ((List.max?_eq_some_iff.1 hmax).2 acked ha)
      simp [overdue, hmax, Nat.not_lt.2 hge]

theorem overdue_issued (n : Nat) (time : Tick) : overdue (h ++ [.issued n time]) = h.overdue := by
  funext generation
  simp [overdue, sinceAck_concat, PingEvent.acknowledged?, PingEvent.timedOut?]

/-- An acknowledgement starts the count anew. -/
theorem overdue_acknowledged (n : Nat) (issuedAt now : Tick) :
    overdue (h ++ [.acknowledged n issuedAt now]) = fun _ => false := by
  funext generation
  rw [overdue, sinceAck_concat]
  exact Bool.and_false _

/-- The timeout of a ping counts unless a later one is acknowledged. -/
theorem overdue_timedOut (n : Nat) :
    overdue (h ++ [.timedOut n]) = fun generation =>
      h.overdue generation || h.acknowledged.max?.all (· < n) && generation == n := by
  funext generation
  have happ : (sinceAck (h ++ [.timedOut n])).timedOut = h.sinceAck.timedOut ++ [n] := by
    rw [sinceAck_concat]
    exact timedOut_concat _ _
  rw [overdue, overdue, acknowledged_concat, happ, List.contains_append]
  by_cases hg : generation = n
  · rw [hg]
    cases hmax : h.acknowledged.max?.all (· < n) <;> simp [PingEvent.acknowledged?, hmax]
  · simp [PingEvent.acknowledged?, hg]

end History

/-! ### Recorded histories -/

/-- The probe that has recorded a history.  Only pings that were issued are acknowledged or time
out, each at most once. -/
inductive Recorded (thresholds : Thresholds) : History → Probe → Prop where
  | new : Recorded thresholds [] (.new thresholds)
  | issue {h : History} {p : Probe} (r : Recorded thresholds h p) (now : Tick) :
      Recorded thresholds (h ++ [.issued p.nextGeneration now]) (p.issue now)
  | acknowledge {h : History} {p : Probe} {generation : Nat} {issuedAt : Tick}
      (r : Recorded thresholds h p) (now : Tick) (hi : .issued generation issuedAt ∈ h)
      (ha : generation ∉ h.acknowledged) :
      Recorded thresholds (h ++ [.acknowledged generation issuedAt now])
        (p.acknowledge generation issuedAt now)
  | timeOut {h : History} {p : Probe} {generation : Nat} (r : Recorded thresholds h p)
      (hi : generation ∈ h.issued) (ht : generation ∉ h.timedOut) :
      Recorded thresholds (h ++ [.timedOut generation]) (p.timeOut generation).1

namespace Recorded
variable {thresholds : Thresholds} {h : History} {p : Probe}

theorem issued_of_acknowledged (r : Recorded thresholds h p) {generation : Nat}
    (ha : generation ∈ h.acknowledged) : generation ∈ h.issued := by
  induction r with
  | new => exact ha
  | issue _ _ ih | timeOut _ _ _ ih =>
      simp only [History.acknowledged_concat, PingEvent.acknowledged?, Option.toList,
        List.append_nil] at ha
      exact History.issued_concat _ _ ▸ List.mem_append_left _ (ih ha)
  | acknowledge _ _ hi _ ih =>
      rw [History.issued_concat]
      rcases List.mem_append.1 (History.acknowledged_concat _ _ ▸ ha) with ha | ha
      · exact List.mem_append_left _ (ih ha)
      · cases List.mem_singleton.1 ha
        exact List.mem_append_left _ (History.mem_issued hi)

theorem issued_of_timedOut (r : Recorded thresholds h p) {generation : Nat}
    (ht : generation ∈ h.timedOut) : generation ∈ h.issued := by
  induction r with
  | new => exact ht
  | issue _ _ ih | acknowledge _ _ _ _ ih =>
      simp only [History.timedOut_concat, PingEvent.timedOut?, Option.toList,
        List.append_nil] at ht
      exact History.issued_concat _ _ ▸ List.mem_append_left _ (ih ht)
  | timeOut _ hi _ ih =>
      rw [History.issued_concat]
      rcases List.mem_append.1 (History.timedOut_concat _ _ ▸ ht) with ht | ht
      · exact List.mem_append_left _ (ih ht)
      · cases List.mem_singleton.1 ht
        exact List.mem_append_left _ hi

end Recorded

/-! ### The summary -/

/-- What a probe says of the history of its pings. -/
structure Summary (h : History) (p : Probe) : Prop where
  /-- The generations are issued in order, without gap or repetition. -/
  issued : h.issued = List.range p.nextGeneration
  sentAt : p.sentAt = h.issueTimes.getLast?
  acked : p.acked = h.acknowledged.max?
  latency : p.latency = h.roundTrips.getLast?
  timeouts : p.timeouts = h.issued.countP h.overdue
  /-- The wait is over with the newest ping. -/
  phase : match h.issued.getLast? with
    | none => p.phase = .idle
    | some newest =>
      if newest ∈ h.acknowledged then p.phase = .idle
      else ∃ since, p.phase = .awaiting since newest

theorem max?_concat (l : List Nat) (n : Nat) :
    (l ++ [n]).max? = some (l.max?.elim n (max · n)) := by
  cases l with
  | nil => rfl
  | cons a l =>
      rw [List.cons_append, List.max?_cons', List.max?_cons', List.foldl_append]
      rfl

/-- One more element of a list without repetitions is counted. -/
theorem countP_or_beq {l : List Nat} {n : Nat} {q : Nat → Bool} (hl : l.Nodup) (hn : n ∈ l)
    (hq : q n = false) : l.countP (fun x => q x || x == n) = l.countP q + 1 := by
  induction l with
  | nil => cases hn
  | cons a l ih =>
      obtain ⟨ha, hl⟩ := List.nodup_cons.1 hl
      rw [List.countP_cons, List.countP_cons]
      by_cases han : a = n
      · subst han
        have hrest : l.countP (fun x => q x || x == a) = l.countP q :=
          List.countP_congr fun x hx => by
            have hxa : x ≠ a := fun h => ha (h ▸ hx)
            simp [hxa]
        rw [hrest, hq]
        simp
      · have hmem : n ∈ l := (List.mem_cons.1 hn).resolve_left (Ne.symm han)
        rw [ih hl hmem]
        simp only [beq_eq_false_iff_ne.2 han, Bool.or_false]
        omega

namespace Probe

/-- A ping is settled exactly if it does not follow all that were acknowledged. -/
theorem isSettled_eq (p : Probe) (generation : Nat) :
    p.isSettled generation = !p.acked.all (· < generation) := by
  rw [isSettled]
  cases p.acked with
  | none => rfl
  | some a => exact (decide_eq_decide.2 Nat.not_lt.symm).trans decide_not

end Probe

namespace Summary
variable {h : History} {p : Probe}

theorem new (thresholds : Thresholds) : Summary [] (.new thresholds) :=
  ⟨rfl, rfl, rfl, rfl, rfl, rfl⟩

/-- The next generation is none of those that were issued. -/
theorem not_issued (s : Summary h p) : p.nextGeneration ∉ h.issued := by
  rw [s.issued]
  exact fun hm => Nat.lt_irrefl _ (List.mem_range.1 hm)

theorem le_newest (s : Summary h p) {newest generation : Nat}
    (hl : h.issued.getLast? = some newest) (hi : generation ∈ h.issued) : generation ≤ newest := by
  rw [s.issued] at hl hi
  cases hn : p.nextGeneration with
  | zero =>
      rw [hn] at hl
      cases hl
  | succ n =>
      rw [hn] at hi
      rw [hn, List.range_succ, List.getLast?_concat] at hl
      cases hl
      exact Nat.le_of_lt_succ (List.mem_range.1 hi)

end Summary

namespace Recorded
variable {thresholds : Thresholds} {h : History} {p : Probe}

theorem summary_issue (r : Recorded thresholds h p) (s : Summary h p) (now : Tick) :
    Summary (h ++ [.issued p.nextGeneration now]) (p.issue now) where
  issued := by
    rw [History.issued_concat, s.issued]
    exact List.range_succ.symm
  sentAt := by
    rw [History.issueTimes_concat]
    exact List.getLast?_concat.symm
  acked := by
    rw [History.acknowledged_concat]
    exact s.acked.trans (by simp [PingEvent.acknowledged?])
  latency := by
    rw [History.roundTrips_concat]
    exact s.latency.trans (by simp [PingEvent.roundTrip?])
  timeouts := by
    have hnew : h.overdue p.nextGeneration = false :=
      History.overdue_eq_false fun hm => s.not_issued (r.issued_of_timedOut hm)
    rw [History.issued_concat, List.countP_append, History.overdue_issued]
    simp only [PingEvent.issued?, Option.toList_some, List.countP_singleton, hnew]
    exact s.timeouts
  phase := by
    have hacks : p.nextGeneration ∉ History.acknowledged (h ++ [.issued p.nextGeneration now]) := by
      rw [History.acknowledged_concat]
      simpa [PingEvent.acknowledged?] using fun hm => s.not_issued (r.issued_of_acknowledged hm)
    rw [History.issued_concat]
    simp only [PingEvent.issued?, Option.toList_some, List.getLast?_concat, if_neg hacks]
    cases hp : p.phase with
    | idle => exact ⟨now, by simp [Probe.issue, hp]⟩
    | awaiting since newest => exact ⟨since, by simp [Probe.issue, hp]⟩

theorem summary_acknowledge (s : Summary h p) {generation : Nat} {issuedAt : Tick} (now : Tick)
    (hi : generation ∈ h.issued) :
    Summary (h ++ [.acknowledged generation issuedAt now])
      (p.acknowledge generation issuedAt now) where
  issued := by
    rw [History.issued_concat]
    exact (List.append_nil _).trans s.issued
  sentAt := by
    rw [History.issueTimes_concat]
    exact s.sentAt.trans (congrArg _ (List.append_nil _).symm)
  acked := by
    rw [History.acknowledged_concat]
    refine Eq.trans ?_ (max?_concat h.acknowledged generation).symm
    rw [← s.acked, Probe.acknowledge]
    cases p.acked <;> rfl
  latency := by
    rw [History.roundTrips_concat]
    exact List.getLast?_concat.symm
  timeouts := by
    rw [History.overdue_acknowledged]
    simp [Probe.acknowledge]
  phase := by
    have hph := s.phase
    rw [History.issued_concat]
    simp only [PingEvent.issued?, Option.toList_none, List.append_nil]
    cases hlast : h.issued.getLast? with
    | none => exact absurd hi (by rw [List.getLast?_eq_none_iff.1 hlast]; exact List.not_mem_nil)
    | some newest =>
        have hacks : newest ∈ History.acknowledged (h ++ [.acknowledged generation issuedAt now]) ↔
            newest ∈ h.acknowledged ∨ newest = generation := by
          rw [History.acknowledged_concat]
          simp [PingEvent.acknowledged?]
        simp only [hlast, hacks] at hph ⊢
        by_cases hm : newest ∈ h.acknowledged
        · rw [if_pos hm] at hph
          rw [if_pos (Or.inl hm)]
          simp [Probe.acknowledge, Probe.phaseAfter, hph]
        · rw [if_neg hm] at hph
          obtain ⟨since, hph⟩ := hph
          by_cases hg : newest = generation
          · rw [if_pos (Or.inr hg)]
            simp [Probe.acknowledge, Probe.phaseAfter, hph, hg]
          · have hlt : ¬ newest ≤ generation := fun hle =>
              hg (Nat.le_antisymm hle (s.le_newest hlast hi))
            rw [if_neg fun ho => ho.elim hm hg]
            exact ⟨p.sentAt.getD since, by simp [Probe.acknowledge, Probe.phaseAfter, hph, hlt]⟩

theorem summary_timeOut (s : Summary h p) {generation : Nat}
    (hi : generation ∈ h.issued) (ht : generation ∉ h.timedOut) :
    Summary (h ++ [.timedOut generation]) (p.timeOut generation).1 := by
  have hfields : (p.timeOut generation).1 =
      { p with timeouts := (p.timeOut generation).1.timeouts } := by
    rw [Probe.timeOut]
    split <;> rfl
  have hissued : History.issued (h ++ [.timedOut generation]) = h.issued := by
    rw [History.issued_concat]
    exact List.append_nil _
  have hacks : History.acknowledged (h ++ [.timedOut generation]) = h.acknowledged := by
    rw [History.acknowledged_concat]
    exact List.append_nil _
  refine ⟨?_, ?_, ?_, ?_, ?_, ?_⟩
  · rw [hfields, hissued]
    exact s.issued
  · rw [hfields, History.issueTimes_concat]
    exact s.sentAt.trans (congrArg _ (List.append_nil _).symm)
  · rw [hfields, hacks]
    exact s.acked
  · rw [hfields, History.roundTrips_concat]
    exact s.latency.trans (congrArg _ (List.append_nil _).symm)
  · rw [hissued, History.overdue_timedOut, ← s.acked, Probe.timeOut, Probe.isSettled_eq]
    cases hset : p.acked.all (· < generation) with
    | false => simpa using s.timeouts
    | true =>
        have hcount := countP_or_beq (by rw [s.issued]; exact List.nodup_range) hi
          (History.overdue_eq_false ht)
        simp only [Bool.true_and, hcount, ← s.timeouts]
        rfl
  · rw [hfields, hissued, hacks]
    exact s.phase

/-- **The summary of a history.**  The probe that recorded it says of it what `Summary` says. -/
theorem summary (r : Recorded thresholds h p) : Summary h p := by
  induction r with
  | new => exact .new thresholds
  | issue r now ih => exact r.summary_issue ih now
  | acknowledge _ now hi _ ih => exact summary_acknowledge ih now (History.mem_issued hi)
  | timeOut _ hi ht ih => exact summary_timeOut ih hi ht

end Recorded
end Vigil.Health
