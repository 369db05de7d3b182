import Vigil.Health.Monitor
import Vigil.Proofs.Health.History
import Vigil.Proofs.Run

/-!
# Health — pings in flight

A monitor together with the pings that its contexts have not answered.  A `Step` is one access to
the table of registrations: a registration, a removal, pings that are issued, an answer or a
check.  Answers and checks come in any order and at any time, or never.

* `Step.get?`: as long as a name is not registered anew or removed, its probe records what
  becomes of the pings issued under that registration, and nothing else.
* `Follows`: each of those pings is acknowledged at most once and times out at most once.

**The probe as a summary** (`probe_summary`): along every run of a monitor, each probe is the
summary of the history of its own registration.
-/

namespace Vigil.Health

/-- A monitor, and the pings that were handed to contexts and not acknowledged yet. -/
structure Flight where
  monitor : Monitor
  unanswered : List Ping

/-- A new monitor. -/
def Flight.new (thresholds : Thresholds) (interval pingTimeout : Span) : Flight :=
  ⟨{ thresholds, interval, pingTimeout }, []⟩

/-- An access to the table of registrations. -/
inductive Event where
  | registered (name : String) (r : Registration)
  | unregistered (name : String)
  | issued (pings : List Ping)
  | acknowledged (ping : Ping) (now : Tick)
  /-- The time of a ping was over. -/
  | timedOut (ping : Ping)
  /-- The cycles were started or stopped, or the next one was planned. -/
  | rescheduled

/-- One access after another. -/
inductive Step : Flight → Event → Flight → Prop where
  | register (f : Flight) (name context : String) (thresholds : Thresholds) :
      Step f (.registered name ⟨f.monitor.nextEpoch, context, .new thresholds⟩)
        { f with monitor := (f.monitor.register name context thresholds).1 }
  | unregister (f : Flight) (name : String) :
      Step f (.unregistered name) { f with monitor := (f.monitor.unregister name).1 }
  /-- One context is pinged, if it is registered. -/
  | ping (f : Flight) {name : String} {timeout : Span} {now : Tick} {m : Monitor}
      {delivery : Option Delivery} {notices : List Notice}
      (h : f.monitor.ping name timeout now = (m, delivery, notices)) :
      Step f (.issued (delivery.toList.map (·.ping)))
        ⟨m, f.unanswered ++ delivery.toList.map (·.ping)⟩
  /-- Every context is pinged. -/
  | cycle (f : Flight) {now : Tick} {m : Monitor} {deliveries : List Delivery}
      (h : f.monitor.cycle now = (m, deliveries)) :
      Step f (.issued (deliveries.map (·.ping))) ⟨m, f.unanswered ++ deliveries.map (·.ping)⟩
  | acknowledge (f : Flight) {before after : List Ping} {ping : Ping} (now : Tick)
      (h : f.unanswered = before ++ ping :: after) :
      Step f (.acknowledged ping now) ⟨f.monitor.acknowledge ping now, before ++ after⟩
  | check (f : Flight) {before after : List Check} {c : Check}
      (h : f.monitor.checks = before ++ c :: after) :
      Step f (.timedOut c.ping)
        { f with monitor := ({ f.monitor with checks := before ++ after }.check c).1 }
  | reschedule (f : Flight) (ticker : Option Ticker) :
      Step f .rescheduled { f with monitor := { f.monitor with ticker } }

/-- The ping was issued under the registration `epoch` of `name`. -/
def Ping.isOf (name : String) (epoch : Nat) (p : Ping) : Bool :=
  p.probe == name && p.epoch == epoch

theorem Ping.isOf_iff {name : String} {epoch : Nat} {p : Ping} :
    p.isOf name epoch = true ↔ name = p.probe ∧ epoch = p.epoch := by
  rw [isOf, Bool.and_eq_true, beq_iff_eq, beq_iff_eq, eq_comm, eq_comm (a := p.epoch)]

namespace Event

/-- The name is registered anew or removed. -/
def Replaces (e : Event) (name : String) : Prop :=
  (∃ r, e = .registered name r) ∨ e = .unregistered name

/-- What happens to the pings of the registration `epoch` of `name`. -/
def pings (name : String) (epoch : Nat) : Event → History
  | .issued pings =>
    (pings.filter (·.isOf name epoch)).map fun p => .issued p.generation p.issuedAt
  | .acknowledged p now =>
    if p.isOf name epoch then [.acknowledged p.generation p.issuedAt now] else []
  | .timedOut p => if p.isOf name epoch then [.timedOut p.generation] else []
  | _ => []

end Event

/-- What happens to a ping, as its probe records it. -/
def Probe.after (p : Probe) : PingEvent → Probe
  | .issued _ now => p.issue now
  | .acknowledged generation issuedAt now => p.acknowledge generation issuedAt now
  | .timedOut generation => (p.timeOut generation).1

/-- The history of the registration `epoch` of `name`. -/
def history (name : String) (epoch : Nat) (es : List Event) : History :=
  es.flatMap (·.pings name epoch)

/-! ### What a step does to a registration -/

/-- Of the pings that one context is sent, those of a registration. -/
theorem filter_ping {m : Monitor} {name : String} {r : Registration}
    (hr : m.probes.get? name = some r) (key : String) (timeout : Span) (now : Tick) :
    ((m.ping key timeout now).2.1.toList.map (·.ping)).filter (·.isOf name r.epoch) =
      if name = key then [Monitor.nextPing name r now] else [] := by
  by_cases hk : name = key
  · subst hk
    simp [Monitor.ping, hr, Monitor.nextPing, Ping.isOf]
  · rw [if_neg hk, Monitor.ping]
    split
    next => rfl
    next => simp [Monitor.nextPing, Ping.isOf, Ne.symm hk]

/-- Of the pings of a cycle, one belongs to each registration. -/
theorem filter_cycle {m : Monitor} {name : String} {r : Registration}
    (hr : m.probes.get? name = some r) (now : Tick) :
    ((m.cycle now).2.map (·.ping)).filter (·.isOf name r.epoch) =
      [Monitor.nextPing name r now] := by
  have hmap : (m.cycle now).2.map (·.ping) =
      m.probes.entries.map fun e => Monitor.nextPing e.1 e.2 now := List.map_map
  have hof : ((·.isOf name r.epoch) ∘ fun e : String × Registration =>
      Monitor.nextPing e.1 e.2 now) = fun e => (e.2.epoch == r.epoch) && (e.1 == name) :=
    funext fun e => Bool.and_comm _ _
  rw [hmap, List.filter_map, hof, ← List.filter_filter, Table.filter_entries, hr]
  simp

/-- As long as a name is not registered anew or removed, its probe records what becomes of the
pings issued under its registration, and nothing else. -/
theorem Step.get? {f f' : Flight} {e : Event} (h : Step f e f') (name : String)
    (hn : ¬ e.Replaces name) :
    f'.monitor.probes.get? name = (f.monitor.probes.get? name).map fun r =>
      { r with probe := (e.pings name r.epoch).foldl Probe.after r.probe } := by
  cases h with
  | register key context thresholds =>
      have hne : name ≠ key := fun hk => hn (Or.inl ⟨_, by rw [hk]⟩)
      rw [Monitor.get?_register, if_neg hne]
      exact Option.map_id'.symm
  | unregister key =>
      have hne : name ≠ key := fun hk => hn (Or.inr (by rw [hk]))
      rw [Monitor.get?_unregister, if_neg hne]
      exact Option.map_id'.symm
  | @ping key timeout now m delivery _ h =>
      have hget := f.monitor.get?_ping key timeout now name
      rw [h] at hget
      rw [hget]
      refine Option.map_congr fun r hr => ?_
      have hof := filter_ping hr key timeout now
      rw [h] at hof
      rw [Event.pings, hof]
      by_cases hk : name = key
      · rw [if_pos hk, if_pos hk]
        rfl
      · rw [if_neg hk, if_neg hk]
        rfl
  | @cycle now m deliveries h =>
      have hget := f.monitor.get?_cycle now name
      rw [h] at hget
      rw [hget]
      refine Option.map_congr fun r hr => ?_
      have hof := filter_cycle hr now
      rw [h] at hof
      rw [Event.pings, hof]
      rfl
  | @acknowledge _ _ ping now h =>
      rw [f.monitor.get?_acknowledge ping now name]
      refine Option.map_congr fun r _ => ?_
      rw [Event.pings]
      by_cases ho : ping.isOf name r.epoch = true
      · rw [if_pos (Ping.isOf_iff.1 ho), if_pos ho]
        rfl
      · rw [if_neg (mt Ping.isOf_iff.2 ho), if_neg ho]
        rfl
  | @check before after c h =>
      rw [Monitor.get?_check { f.monitor with checks := before ++ after } c name]
      refine Option.map_congr fun r _ => ?_
      rw [Event.pings]
      by_cases ho : c.ping.isOf name r.epoch = true
      · rw [if_pos (Ping.isOf_iff.1 ho), if_pos ho]
        rfl
      · rw [if_neg (mt Ping.isOf_iff.2 ho), if_neg ho]
        rfl
  | reschedule => exact Option.map_id'.symm

/-- So it is along a run. -/
theorem get?_of_run {f f' : Flight} {es : List Event} (hrun : Run Step f es f')
    {name : String} {r : Registration} (hr : f.monitor.probes.get? name = some r)
    (hes : ∀ e ∈ es, ¬ e.Replaces name) :
    f'.monitor.probes.get? name =
      some { r with probe := (history name r.epoch es).foldl Probe.after r.probe } := by
  induction hrun generalizing r with
  | refl => exact hr
  | more h _ ih =>
      rw [List.forall_mem_cons] at hes
      have hnext := h.get? name hes.1
      rw [hr, Option.map_some] at hnext
      rw [ih hnext hes.2, history, history, List.flatMap_cons, List.foldl_append]

/-! ### What a step does to the pings in flight -/

/-- The pings whose time is not over yet. -/
def Flight.unchecked (f : Flight) : List Ping := f.monitor.checks.map (·.ping)

namespace Event

/-- The pings that were issued. -/
def joining : Event → List Ping
  | .issued pings => pings
  | _ => []

/-- The ping that was acknowledged. -/
def answered? : Event → Option Ping
  | .acknowledged p _ => some p
  | _ => none

/-- The ping that was checked. -/
def checked? : Event → Option Ping
  | .timedOut p => some p
  | _ => none

end Event

/-- One ping at most leaves the list, and others join it. -/
def Moves (pings : List Ping) (leaving : Option Ping) (joining pings' : List Ping) : Prop :=
  ∃ before after, pings = before ++ leaving.toList ++ after ∧ pings' = before ++ after ++ joining

theorem Moves.refl (pings : List Ping) : Moves pings none [] pings := ⟨pings, [], by simp, by simp⟩

theorem Moves.join (pings joining : List Ping) : Moves pings none joining (pings ++ joining) :=
  ⟨pings, [], by simp, by simp⟩

theorem Moves.eq_append {pings joining pings' : List Ping} (h : Moves pings none joining pings') :
    pings' = pings ++ joining := by
  obtain ⟨before, after, rfl, rfl⟩ := h
  simp

theorem Moves.eq_self {pings pings' : List Ping} (h : Moves pings none [] pings') :
    pings' = pings :=
  h.eq_append.trans (List.append_nil _)

theorem Moves.leaves {pings pings' : List Ping} {p : Ping} (h : Moves pings (some p) [] pings') :
    ∃ before after, pings = before ++ p :: after ∧ pings' = before ++ after := by
  obtain ⟨before, after, rfl, rfl⟩ := h
  exact ⟨before, after, by simp, by simp⟩

theorem Step.unanswered {f f' : Flight} {e : Event} (h : Step f e f') :
    Moves f.unanswered e.answered? e.joining f'.unanswered := by
  cases h with
  | register | unregister | check | reschedule => exact Moves.refl _
  | ping | cycle => exact Moves.join _ _
  | @acknowledge before after ping now h =>
      exact ⟨before, after, by simpa [Event.answered?] using h, (List.append_nil _).symm⟩

theorem Step.unchecked {f f' : Flight} {e : Event} (h : Step f e f') :
    Moves f.unchecked e.checked? e.joining f'.unchecked := by
  cases h with
  | register | unregister | reschedule => exact Moves.refl _
  | @acknowledge before after ping now _ =>
      have hsame : Flight.unchecked ⟨f.monitor.acknowledge ping now, before ++ after⟩ =
          f.unchecked := congrArg (List.map _) (f.monitor.checks_acknowledge ping now)
      rw [hsame]
      exact Moves.refl _
  | @ping name timeout now m delivery _ h =>
      have hch := f.monitor.checks_ping name timeout now
      rw [h] at hch
      rw [Flight.unchecked, Flight.unchecked, hch, List.map_append, List.map_map]
      exact Moves.join _ _
  | @cycle now m deliveries h =>
      have hch : m.checks = f.monitor.checks ++ deliveries.map fun d =>
          ⟨d.ping, f.monitor.pingTimeout⟩ := by
        cases h
        rfl
      rw [Flight.unchecked, Flight.unchecked, hch, List.map_append, List.map_map]
      exact Moves.join _ _
  | @check before after c h =>
      refine ⟨before.map (·.ping), after.map (·.ping), ?_, ?_⟩
      · simp [Flight.unchecked, h, Event.checked?]
      · simp [Flight.unchecked, Monitor.checks_check, Event.joining]

/-- A registration that stands is issued its next ping, or none. -/
theorem Step.joining {f f' : Flight} {e : Event} {name : String} {r : Registration}
    (h : Step f e f') (hr : f.monitor.probes.get? name = some r) :
    e.joining.filter (·.isOf name r.epoch) = [] ∨
      ∃ now, e.joining.filter (·.isOf name r.epoch) = [Monitor.nextPing name r now] := by
  cases h with
  | register | unregister | acknowledge | check | reschedule => exact Or.inl rfl
  | @ping key timeout now m delivery _ h =>
      have hof := filter_ping hr key timeout now
      rw [h] at hof
      by_cases hk : name = key
      · exact Or.inr ⟨now, hof.trans (if_pos hk)⟩
      · exact Or.inl (hof.trans (if_neg hk))
  | @cycle now m deliveries h =>
      have hof := filter_cycle hr now
      rw [h] at hof
      exact Or.inr ⟨now, hof⟩

/-! ### Epochs -/

/-- Every epoch in sight was given out before. -/
structure Flight.Sound (f : Flight) : Prop where
  registered : ∀ name r, f.monitor.probes.get? name = some r → r.epoch < f.monitor.nextEpoch
  unanswered : ∀ p ∈ f.unanswered, p.epoch < f.monitor.nextEpoch
  unchecked : ∀ p ∈ f.unchecked, p.epoch < f.monitor.nextEpoch

theorem Flight.sound_new (thresholds : Thresholds) (interval pingTimeout : Span) :
    (Flight.new thresholds interval pingTimeout).Sound :=
  ⟨fun _ _ h => absurd h (by simp [Flight.new]), fun _ h => (nomatch h), fun _ h => (nomatch h)⟩

/-- How many epochs were given out. -/
def Event.given : Event → Nat
  | .registered .. => 1
  | _ => 0

theorem Step.nextEpoch {f f' : Flight} {e : Event} (h : Step f e f') :
    f'.monitor.nextEpoch = f.monitor.nextEpoch + e.given := by
  cases h with
  | register | unregister | reschedule => rfl
  | @ping name timeout now m delivery _ h =>
      have hne := f.monitor.nextEpoch_ping name timeout now
      rw [h] at hne
      exact hne
  | @cycle now m deliveries h =>
      cases h
      rfl
  | @acknowledge _ _ ping now _ => exact f.monitor.nextEpoch_acknowledge ping now
  | @check before after c _ =>
      exact Monitor.nextEpoch_check { f.monitor with checks := before ++ after } c

/-- A ping that is issued belongs to a registration. -/
theorem Step.joins {f f' : Flight} {e : Event} (h : Step f e f') {p : Ping} (hp : p ∈ e.joining) :
    ∃ r, f.monitor.probes.get? p.probe = some r ∧ p.epoch = r.epoch := by
  cases h with
  | register | unregister | acknowledge | check | reschedule => cases hp
  | @ping name timeout now m delivery _ h =>
      rw [Monitor.ping] at h
      split at h
      next => cases h; cases hp
      next r hr =>
        cases h
        cases List.mem_singleton.1 hp
        exact ⟨r, hr, rfl⟩
  | @cycle now m deliveries h =>
      cases h
      obtain ⟨d, hd, rfl⟩ := List.mem_map.1 hp
      obtain ⟨⟨name, r⟩, he, rfl⟩ := List.mem_map.1 hd
      exact ⟨r, Table.mem_entries_iff.1 he, rfl⟩

/-- A registration that stands after a step stood before, or is new. -/
theorem Step.stands {f f' : Flight} {e : Event} (h : Step f e f') {name : String}
    {r : Registration} (hr : f'.monitor.probes.get? name = some r) :
    (∃ r₀, f.monitor.probes.get? name = some r₀ ∧ r.epoch = r₀.epoch) ∨
      e = .registered name r := by
  by_cases hn : e.Replaces name
  · cases h with
    | register key context thresholds =>
        rw [Monitor.get?_register] at hr
        split at hr
        next hk => cases hr; exact Or.inr (hk ▸ rfl)
        next => exact Or.inl ⟨r, hr, rfl⟩
    | unregister key =>
        rw [Monitor.get?_unregister] at hr
        split at hr
        next => cases hr
        next => exact Or.inl ⟨r, hr, rfl⟩
    | ping | cycle | acknowledge | check | reschedule => exact absurd hn (by simp [Event.Replaces])
  · rw [h.get? name hn] at hr
    obtain ⟨r₀, hr₀, rfl⟩ := Option.map_eq_some_iff.1 hr
    exact Or.inl ⟨r₀, hr₀, rfl⟩

/-- What is in the list after a move was there before, or has joined. -/
theorem Moves.mem {pings joining pings' : List Ping} {leaving : Option Ping}
    (h : Moves pings leaving joining pings') {p : Ping} (hp : p ∈ pings') :
    p ∈ pings ∨ p ∈ joining := by
  obtain ⟨before, after, rfl, rfl⟩ := h
  rcases List.mem_append.1 hp with hp | hp
  · rcases List.mem_append.1 hp with hp | hp
    · exact Or.inl (List.mem_append_left _ (List.mem_append_left _ hp))
    · exact Or.inl (List.mem_append_right _ hp)
  · exact Or.inr hp

theorem Step.sound {f f' : Flight} {e : Event} (h : Step f e f') (hs : f.Sound) : f'.Sound := by
  have hle : f.monitor.nextEpoch ≤ f'.monitor.nextEpoch := h.nextEpoch ▸ Nat.le_add_right _ _
  have hjoin : ∀ p ∈ e.joining, p.epoch < f.monitor.nextEpoch := fun p hp => by
    obtain ⟨r, hr, he⟩ := h.joins hp
    exact he ▸ hs.registered _ r hr
  refine ⟨fun name r hr => ?_, fun p hp => ?_, fun p hp => ?_⟩
  · rcases h.stands hr with ⟨r₀, hr₀, he⟩ | rfl
    · exact he ▸ Nat.lt_of_lt_of_le (hs.registered name r₀ hr₀) hle
    · cases h
      exact Nat.lt_succ_self _
  · exact Nat.lt_of_lt_of_le ((h.unanswered.mem hp).elim (hs.unanswered p) (hjoin p)) hle
  · exact Nat.lt_of_lt_of_le ((h.unchecked.mem hp).elim (hs.unchecked p) (hjoin p)) hle

/-! ### The pings of one registration -/

/-- The pings of a registration that are in the list were issued, and none of them is done or
occurs twice. -/
structure Pending (name : String) (epoch : Nat) (h : History) (done : List Nat)
    (pings : List Ping) : Prop where
  issued : ∀ p ∈ pings, p.isOf name epoch = true → .issued p.generation p.issuedAt ∈ h
  once : (done ++ (pings.filter (·.isOf name epoch)).map (·.generation)).Nodup

namespace Pending
variable {name : String} {epoch : Nat} {h : History} {done : List Nat} {pings : List Ping}

/-- No ping belongs to a registration that is still to come. -/
theorem new (hlt : ∀ p ∈ pings, p.epoch < epoch) : Pending name epoch [] [] pings := by
  have hno : ∀ p ∈ pings, ¬ p.isOf name epoch = true := fun p hp ho =>
    Nat.lt_irrefl _ ((Ping.isOf_iff.1 ho).2 ▸ hlt p hp)
  refine ⟨fun p hp ho => absurd ho (hno p hp), ?_⟩
  rw [List.filter_eq_nil_iff.2 hno]
  exact List.nodup_nil

theorem mono (hp : Pending name epoch h done pings) {since : History} :
    Pending name epoch (h ++ since) done pings :=
  ⟨fun p hm ho => List.mem_append_left _ (hp.issued p hm ho), hp.once⟩

theorem not_done (hp : Pending name epoch h done pings) {p : Ping} (hm : p ∈ pings)
    (ho : p.isOf name epoch = true) : p.generation ∉ done := fun hd =>
  (List.nodup_append.1 hp.once).2.2 _ hd _
    (List.mem_map_of_mem (List.mem_filter.2 ⟨hm, ho⟩)) rfl

theorem leave {before after : List Ping} {p : Ping}
    (hp : Pending name epoch h done (before ++ p :: after)) (ho : p.isOf name epoch = true) :
    Pending name epoch h (done ++ [p.generation]) (before ++ after) := by
  refine ⟨fun q hq => hp.issued q ?_, ?_⟩
  · exact (List.mem_append.1 hq).elim (List.mem_append_left _) fun hq =>
      List.mem_append_right _ (List.mem_cons_of_mem _ hq)
  · refine (List.Perm.nodup_iff ?_).1 hp.once
    simp only [List.filter_append, List.filter_cons, ho, if_true, List.map_append, List.map_cons,
      List.append_assoc, List.singleton_append]
    exact List.perm_middle.append_left done

theorem leave_other {before after : List Ping} {p : Ping}
    (hp : Pending name epoch h done (before ++ p :: after)) (ho : ¬ p.isOf name epoch = true) :
    Pending name epoch h done (before ++ after) := by
  refine ⟨fun q hq => hp.issued q ?_, ?_⟩
  · exact (List.mem_append.1 hq).elim (List.mem_append_left _) fun hq =>
      List.mem_append_right _ (List.mem_cons_of_mem _ hq)
  · have honce := hp.once
    rw [List.filter_append, List.filter_cons, if_neg ho, ← List.filter_append] at honce
    exact honce

theorem join {joining : List Ping} {q : Ping} (hp : Pending name epoch h done pings)
    (hj : joining.filter (·.isOf name epoch) = [q])
    (hd : ∀ g ∈ done, g ∈ h.issued) (hq : q.generation ∉ h.issued) :
    Pending name epoch (h ++ [.issued q.generation q.issuedAt]) done (pings ++ joining) := by
  refine ⟨fun p hm ho => ?_, ?_⟩
  · rcases List.mem_append.1 hm with hm | hm
    · exact List.mem_append_left _ (hp.issued p hm ho)
    · have hpq : p ∈ [q] := hj ▸ List.mem_filter.2 ⟨hm, ho⟩
      cases List.mem_singleton.1 hpq
      exact List.mem_append_right _ (List.mem_singleton_self _)
  · rw [List.filter_append, hj, List.map_append, ← List.append_assoc]
    refine List.nodup_append.2 ⟨hp.once, List.nodup_cons.2 ⟨List.not_mem_nil, List.nodup_nil⟩, ?_⟩
    intro g hg g' hg' heq
    cases List.mem_singleton.1 hg'
    subst heq
    refine hq ?_
    rcases List.mem_append.1 hg with hg | hg
    · exact hd _ hg
    · obtain ⟨p, hm, he⟩ := List.mem_map.1 hg
      obtain ⟨hm, ho⟩ := List.mem_filter.1 hm
      rw [← show p.generation = q.generation from he]
      exact History.mem_issued (hp.issued p hm ho)

theorem join_other {joining : List Ping} (hp : Pending name epoch h done pings)
    (hj : joining.filter (·.isOf name epoch) = []) :
    Pending name epoch h done (pings ++ joining) := by
  refine ⟨fun p hm ho => ?_, ?_⟩
  · rcases List.mem_append.1 hm with hm | hm
    · exact hp.issued p hm ho
    · exact absurd ho (List.filter_eq_nil_iff.1 hj p hm)
  · rw [List.filter_append, hj, List.append_nil]
    exact hp.once

end Pending

/-- The registration `epoch` of `name` stands, its probe has recorded the history `h` of its pings,
and what becomes of those in flight will happen for the first time. -/
structure Follows (name : String) (epoch : Nat) (thresholds : Thresholds) (h : History)
    (f : Flight) : Prop where
  probe : ∃ r, f.monitor.probes.get? name = some r ∧ r.epoch = epoch ∧
    Recorded thresholds h r.probe
  unanswered : Pending name epoch h h.acknowledged f.unanswered
  unchecked : Pending name epoch h h.timedOut f.unchecked

namespace Follows
variable {name : String} {epoch : Nat} {thresholds : Thresholds} {h : History} {f f' : Flight}
  {e : Event}

theorem of_register {r : Registration} (hs : Step f (.registered name r) f') (hf : f.Sound) :
    Follows name r.epoch r.probe.thresholds [] f' := by
  cases hs with
  | register _ context thresholds =>
      refine ⟨⟨_, ?_, rfl, .new⟩, .new hf.unanswered, .new hf.unchecked⟩
      exact (f.monitor.get?_register name context thresholds name).trans (if_pos rfl)

/-- Nothing happens to the pings of the registration. -/
theorem keep (hf : Follows name epoch thresholds h f) (hs : Step f e f')
    (hn : ¬ e.Replaces name) (he : e.pings name epoch = [])
    (hun : Pending name epoch h h.acknowledged f'.unanswered)
    (hch : Pending name epoch h h.timedOut f'.unchecked) :
    Follows name epoch thresholds (h ++ e.pings name epoch) f' := by
  obtain ⟨r, hr, rfl, hrec⟩ := hf.probe
  have hr' := hs.get? name hn
  rw [hr, Option.map_some, he] at hr'
  rw [he, List.append_nil]
  exact ⟨⟨r, hr', rfl, hrec⟩, hun, hch⟩

theorem acknowledge {p : Ping} {now : Tick} (hf : Follows name epoch thresholds h f)
    (hs : Step f (.acknowledged p now) f') (ho : p.isOf name epoch = true) :
    Follows name epoch thresholds (h ++ [.acknowledged p.generation p.issuedAt now]) f' := by
  obtain ⟨r, hr, rfl, hrec⟩ := hf.probe
  obtain ⟨before, after, hpings, hpings'⟩ := hs.unanswered.leaves
  have hpend := hf.unanswered
  have hmem : p ∈ f.unanswered := by simp [hpings]
  have hr' := hs.get? name (by simp [Event.Replaces])
  rw [hr, Option.map_some, Event.pings, if_pos ho] at hr'
  refine ⟨⟨_, hr', rfl, hrec.acknowledge now (hpend.issued p hmem ho) (hpend.not_done hmem ho)⟩,
    ?_, ?_⟩
  · rw [hpings', History.acknowledged_concat]
    rw [hpings] at hpend
    exact (hpend.leave ho).mono
  · rw [hs.unchecked.eq_self, History.timedOut_concat]
    exact (List.append_nil h.timedOut).symm ▸ hf.unchecked.mono

theorem timeOut {p : Ping} (hf : Follows name epoch thresholds h f)
    (hs : Step f (.timedOut p) f') (ho : p.isOf name epoch = true) :
    Follows name epoch thresholds (h ++ [.timedOut p.generation]) f' := by
  obtain ⟨r, hr, rfl, hrec⟩ := hf.probe
  obtain ⟨before, after, hpings, hpings'⟩ := hs.unchecked.leaves
  have hpend := hf.unchecked
  have hmem : p ∈ f.unchecked := by simp [hpings]
  have hr' := hs.get? name (by simp [Event.Replaces])
  rw [hr, Option.map_some, Event.pings, if_pos ho] at hr'
  refine ⟨⟨_, hr', rfl, hrec.timeOut (History.mem_issued (hpend.issued p hmem ho))
    (hpend.not_done hmem ho)⟩, ?_, ?_⟩
  · rw [hs.unanswered.eq_self, History.acknowledged_concat]
    exact (List.append_nil h.acknowledged).symm ▸ hf.unanswered.mono
  · rw [hpings', History.timedOut_concat]
    rw [hpings] at hpend
    exact (hpend.leave ho).mono

/-- The registration is issued its next ping. -/
theorem issue {pings : List Ping} {r : Registration} {now : Tick}
    (hf : Follows name r.epoch thresholds h f) (hs : Step f (.issued pings) f')
    (hr : f.monitor.probes.get? name = some r)
    (hj : pings.filter (·.isOf name r.epoch) = [Monitor.nextPing name r now]) :
    Follows name r.epoch thresholds (h ++ [.issued r.probe.nextGeneration now]) f' := by
  have hrec : Recorded thresholds h r.probe := by
    obtain ⟨r', hr', -, hrec⟩ := hf.probe
    cases hr.symm.trans hr'
    exact hrec
  have hnew : r.probe.nextGeneration ∉ h.issued := hrec.summary.not_issued
  have hr' := hs.get? name (by simp [Event.Replaces])
  rw [hr, Option.map_some, Event.pings, hj] at hr'
  refine ⟨⟨_, hr', rfl, hrec.issue now⟩, ?_, ?_⟩
  · rw [hs.unanswered.eq_append, History.acknowledged_concat]
    exact (List.append_nil h.acknowledged).symm ▸
      hf.unanswered.join hj (fun _ => hrec.issued_of_acknowledged) hnew
  · rw [hs.unchecked.eq_append, History.timedOut_concat]
    exact (List.append_nil h.timedOut).symm ▸
      hf.unchecked.join hj (fun _ => hrec.issued_of_timedOut) hnew

theorem step (hf : Follows name epoch thresholds h f) (hs : Step f e f')
    (hn : ¬ e.Replaces name) : Follows name epoch thresholds (h ++ e.pings name epoch) f' := by
  have hun := hs.unanswered
  have hch := hs.unchecked
  cases e with
  | registered | unregistered | rescheduled =>
      refine hf.keep hs hn rfl ?_ ?_
      · exact hun.eq_self ▸ hf.unanswered
      · exact hch.eq_self ▸ hf.unchecked
  | issued pings =>
      obtain ⟨r, hr, rfl, -⟩ := hf.probe
      rcases hs.joining hr with hj | ⟨now, hj⟩
      · refine hf.keep hs hn (congrArg (List.map _) hj) ?_ ?_
        · exact hun.eq_append ▸ hf.unanswered.join_other hj
        · exact hch.eq_append ▸ hf.unchecked.join_other hj
      · rw [Event.pings, show pings.filter (·.isOf name r.epoch) = [_] from hj]
        exact hf.issue hs hr hj
  | acknowledged p now =>
      by_cases ho : p.isOf name epoch = true
      · rw [Event.pings, if_pos ho]
        exact hf.acknowledge hs ho
      · refine hf.keep hs hn (if_neg ho) ?_ ?_
        · obtain ⟨before, after, hpings, hpings'⟩ := hun.leaves
          rw [hpings']
          exact (hpings ▸ hf.unanswered).leave_other ho
        · exact hch.eq_self ▸ hf.unchecked
  | timedOut p =>
      by_cases ho : p.isOf name epoch = true
      · rw [Event.pings, if_pos ho]
        exact hf.timeOut hs ho
      · refine hf.keep hs hn (if_neg ho) ?_ ?_
        · exact hun.eq_self ▸ hf.unanswered
        · obtain ⟨before, after, hpings, hpings'⟩ := hch.leaves
          rw [hpings']
          exact (hpings ▸ hf.unchecked).leave_other ho

/-- It does so until its name is registered anew or removed. -/
theorem run (hf : Follows name epoch thresholds h f) {es : List Event} (hrun : Run Step f es f')
    (hn : ∀ e ∈ es, ¬ e.Replaces name) :
    Follows name epoch thresholds (h ++ history name epoch es) f' := by
  induction hrun generalizing h with
  | refl => exact (List.append_nil h).symm ▸ hf
  | more hs _ ih =>
      rw [history, List.flatMap_cons, ← List.append_assoc]
      exact ih (hf.step hs (hn _ List.mem_cons_self)) fun e he => hn e (List.mem_cons_of_mem _ he)

end Follows
/-- **The probe as a summary.**  However the acknowledgements and timeouts of a registration's pings
come, if none comes twice:
* the probe that recorded them is the summary of this history;
* a ping that is acknowledged, or overtaken by one that is, does not count as overdue;
* along every run of a monitor, the probe of a name has recorded such a history, that of the pings
  issued since its registration. -/
theorem probe_summary :
    (∀ {thresholds : Thresholds} {h : History} {p : Probe}, Recorded thresholds h p →
      Summary h p ∧
      ∀ acked ∈ h.acknowledged, ∀ generation ≤ acked, h.overdue generation = false) ∧
    (∀ {defaults : Thresholds} {interval pingTimeout : Span} {es : List Event} {f : Flight},
      Run Step (.new defaults interval pingTimeout) es f →
      ∀ before since name r, es = before ++ .registered name r :: since →
        (∀ e ∈ since, ¬ e.Replaces name) →
        ∃ r', f.monitor.probes.get? name = some r' ∧ r'.epoch = r.epoch ∧
          Recorded r.probe.thresholds (history name r.epoch since) r'.probe) := by
  refine ⟨fun hrec => ⟨hrec.summary, fun acked ha generation hle => ?_⟩, ?_⟩
  · exact History.overdue_of_le ha hle
  · intro defaults interval pingTimeout es f h before since name r hes hn
    subst hes
    obtain ⟨f₁, f₂, h₁, hs, h₂⟩ := h.split_at
    have hsound : f₁.Sound := h₁.preserves (fun hst => hst.sound) (Flight.sound_new _ _ _)
    exact ((Follows.of_register hs hsound).run h₂ hn).probe

/-- The first of two pings times out, the second is acknowledged, and its check comes late. -/
theorem probe_summary_overtaken :
    let bounds : Thresholds := ⟨1, 3, 3⟩
    let p₀ : Ping := ⟨"ui", 0, 0, 0⟩
    let p₁ : Ping := ⟨"ui", 0, 1, 4⟩
    let since : List Event :=
      [.issued [p₀], .issued [p₁], .timedOut p₀, .acknowledged p₁ 7, .timedOut p₁]
    ∃ f r, Run Step (.new bounds 4 2) (.registered "ui" ⟨0, "main", .new bounds⟩ :: since) f ∧
      f.monitor.probes.get? "ui" = some r ∧ Summary (history "ui" 0 since) r.probe := by
  intro bounds p₀ p₁ since
  let f₁ : Flight := ⟨((Flight.new bounds 4 2).monitor.register "ui" "main" bounds).1, []⟩
  let f₂ : Flight := ⟨(f₁.monitor.cycle 0).1, [p₀]⟩
  let f₃ : Flight := ⟨(f₂.monitor.cycle 4).1, [p₀, p₁]⟩
  let f₄ : Flight := ⟨({ f₃.monitor with checks := [⟨p₁, 2⟩] }.check ⟨p₀, 2⟩).1, [p₀, p₁]⟩
  let f₅ : Flight := ⟨f₄.monitor.acknowledge p₁ 7, [p₀]⟩
  let f₆ : Flight := ⟨({ f₅.monitor with checks := [] }.check ⟨p₁, 2⟩).1, [p₀]⟩
  have h₁ : Step (.new bounds 4 2) (.registered "ui" ⟨0, "main", .new bounds⟩) f₁ :=
    .register _ "ui" "main" bounds
  have h₂ : Step f₁ (.issued [p₀]) f₂ := .cycle f₁ rfl
  have h₃ : Step f₂ (.issued [p₁]) f₃ := .cycle f₂ rfl
  have h₄ : Step f₃ (.timedOut p₀) f₄ := @Step.check f₃ [] [⟨p₁, 2⟩] ⟨p₀, 2⟩ rfl
  have h₅ : Step f₄ (.acknowledged p₁ 7) f₅ := @Step.acknowledge f₄ [p₀] [] p₁ 7 rfl
  have hlast : f₅.monitor.checks = [⟨p₁, 2⟩] := by
    rw [Monitor.checks_acknowledge, Monitor.checks_check]
  have h₆ : Step f₅ (.timedOut p₁) f₆ := @Step.check f₅ [] [] ⟨p₁, 2⟩ hlast
  have h : Run Step (.new bounds 4 2) (.registered "ui" ⟨0, "main", .new bounds⟩ :: since) f₆ :=
    .more h₁ (.more h₂ (.more h₃ (.more h₄ (.more h₅ (.one h₆)))))
  obtain ⟨r, hr, -, hrec⟩ := probe_summary.2 h [] since "ui" _ rfl (by simp [since, Event.Replaces])
  exact ⟨f₆, r, h, hr, (probe_summary.1 hrec).1⟩

end Vigil.Health
