import Vigil.Proofs.Health.Flight

/-!
# Health — registrations keep to themselves

Several threads share a monitor.  A registration is made in two parts: its epoch is drawn, and
later, when others may have drawn or registered too, it is entered in the table (`Turn`).  Pings of
a registration that was replaced are still answered and checked, and their generations are those of
the pings issued since.

* `Shared.Sound`: every epoch is given out once, and each ping in flight was issued under the
  registration that its epoch names.
* `Twin`: two runs of which one lacks answers and checks of other registrations of a name.

**Isolation** (`registrations_isolated`): a registration's probe is the same in both runs.
-/

namespace Vigil.Health

/-! ### Registering in two parts -/

namespace Monitor

/-- The epoch of a registration is drawn. -/
def draw (m : Monitor) : Monitor := { m with nextEpoch := m.nextEpoch + 1 }

/-- A registration is entered under a name. -/
def enter (m : Monitor) (name : String) (r : Registration) : Monitor :=
  { m with probes := m.probes.insert name r }

/-- To register is to draw an epoch and enter the registration. -/
theorem register_eq (m : Monitor) (name context : String) (thresholds : Thresholds) :
    (m.register name context thresholds).1 =
      m.draw.enter name ⟨m.nextEpoch, context, .new thresholds⟩ := rfl

theorem get?_enter (m : Monitor) (name : String) (r : Registration) (key : String) :
    (m.enter name r).probes.get? key = if key = name then some r else m.probes.get? key :=
  m.probes.get?_insert name key r

end Monitor

/-- A monitor that threads share, and the registrations whose epochs are drawn and that are not
entered yet. -/
structure Shared where
  flight : Flight
  drawn : List (String × Registration)

namespace Shared

/-- A new monitor. -/
def new (thresholds : Thresholds) (interval pingTimeout : Span) : Shared :=
  ⟨.new thresholds interval pingTimeout, []⟩

/-- The probe that is registered under a name, with its epoch. -/
def probe? (d : Shared) (name : String) : Option Registration := d.flight.monitor.probes.get? name

end Shared

/-- What a thread does with the monitor. -/
inductive Act where
  /-- It draws an epoch. -/
  | drew (name : String) (r : Registration)
  /-- It accesses the table. -/
  | did (e : Event)

/-- One thread after another. -/
inductive Turn : Shared → Act → Shared → Prop where
  | draw (d : Shared) (name context : String) (thresholds : Thresholds) :
      Turn d (.drew name ⟨d.flight.monitor.nextEpoch, context, .new thresholds⟩)
        ⟨{ d.flight with monitor := d.flight.monitor.draw },
          d.drawn ++ [(name, ⟨d.flight.monitor.nextEpoch, context, .new thresholds⟩)]⟩
  | enter (d : Shared) {before after : List (String × Registration)} {name : String}
      {r : Registration} (h : d.drawn = before ++ (name, r) :: after) :
      Turn d (.did (.registered name r))
        ⟨{ d.flight with monitor := d.flight.monitor.enter name r }, before ++ after⟩
  | access (d : Shared) {e : Event} {f : Flight} (h : Step d.flight e f) (hn : e.given = 0) :
      Turn d (.did e) ⟨f, d.drawn⟩

/-- A monitor that is accessed by one thread at a time is a shared one. -/
theorem Turn.of_step {f f' : Flight} {e : Event} (h : Step f e f')
    (drawn : List (String × Registration)) :
    ∃ acts, Run Turn ⟨f, drawn⟩ (acts ++ [.did e]) ⟨f', drawn⟩ := by
  cases h with
  | register name context thresholds =>
      refine ⟨[.drew name _], .more (.draw _ name context thresholds) (.one ?_)⟩
      have henter := @Turn.enter ⟨{ f with monitor := f.monitor.draw }, drawn ++ [(name, _)]⟩
        drawn [] name ⟨f.monitor.nextEpoch, context, .new thresholds⟩ rfl
      rwa [List.append_nil] at henter
  | unregister name => exact ⟨[], .one (.access ⟨f, drawn⟩ (.unregister f name) rfl)⟩
  | ping h => exact ⟨[], .one (.access ⟨f, drawn⟩ (.ping f h) rfl)⟩
  | cycle h => exact ⟨[], .one (.access ⟨f, drawn⟩ (.cycle f h) rfl)⟩
  | acknowledge now h => exact ⟨[], .one (.access ⟨f, drawn⟩ (.acknowledge f now h) rfl)⟩
  | check h => exact ⟨[], .one (.access ⟨f, drawn⟩ (.check f h) rfl)⟩
  | reschedule ticker => exact ⟨[], .one (.access ⟨f, drawn⟩ (.reschedule f ticker) rfl)⟩

namespace Act

/-- The name is registered anew or removed. -/
def Replaces (a : Act) (name : String) : Prop :=
  match a with
  | .drew .. => False
  | .did e => e.Replaces name

/-- The epoch of a registration that was entered. -/
def entered? : Act → Option Nat
  | .did (.registered _ r) => some r.epoch
  | _ => none

/-- The ping that was answered or checked. -/
def settled? : Act → Option Ping
  | .did e => e.answered?.or e.checked?
  | _ => none

/-- A ping that another registration of the name issued was answered or checked. -/
def isForeign (name : String) (epoch : Nat) (a : Act) : Bool :=
  a.settled?.any fun p => p.probe == name && p.epoch != epoch

theorem isForeign_iff {name : String} {epoch : Nat} {a : Act} :
    a.isForeign name epoch = true ↔ ∃ p, a.settled? = some p ∧ p.probe = name ∧ p.epoch ≠ epoch := by
  rw [isForeign, Option.any_eq_true]
  simp only [Bool.and_eq_true, beq_iff_eq, bne_iff_ne]

section
variable {e : Event} {p : Ping}

theorem settled?_did (h : (Act.did e).settled? = some p) :
    (∃ now, e = .acknowledged p now) ∨ e = .timedOut p := by
  cases e with
  | acknowledged q now => cases h; exact Or.inl ⟨now, rfl⟩
  | timedOut q => cases h; exact Or.inr rfl
  | registered | unregistered | issued | rescheduled => cases h

theorem not_replaces_of_settled (h : (Act.did e).settled? = some p) {name : String} :
    ¬ e.Replaces name := by
  obtain ⟨now, rfl⟩ | rfl := settled?_did h <;> simp [Event.Replaces]

theorem given_of_settled (h : (Act.did e).settled? = some p) : e.given = 0 := by
  obtain ⟨now, rfl⟩ | rfl := settled?_did h <;> rfl

theorem joining_of_settled (h : (Act.did e).settled? = some p) : e.joining = [] := by
  obtain ⟨now, rfl⟩ | rfl := settled?_did h <;> rfl

theorem pings_of_settled (h : (Act.did e).settled? = some p) {name : String} {epoch : Nat}
    (hn : ¬ p.isOf name epoch = true) : e.pings name epoch = [] := by
  obtain ⟨now, rfl⟩ | rfl := settled?_did h <;> exact if_neg hn

theorem issued_of_settled (h : (Act.did e).settled? = some p) {name : String} {epoch : Nat} :
    (e.pings name epoch).issued = [] := by
  obtain ⟨now, rfl⟩ | rfl := settled?_did h <;> rw [Event.pings] <;> split <;> rfl

end

end Act

/-- The epochs of the registrations, in the order in which they were entered. -/
def entered (acts : List Act) : List Nat := acts.filterMap Act.entered?

/-- The ping was issued under the registration that its epoch names. -/
def IssuedUnder (acts : List Act) (p : Ping) : Prop :=
  ∃ before since r pings, acts = before ++ .did (.registered p.probe r) :: since ∧
    r.epoch = p.epoch ∧ .did (.issued pings) ∈ since ∧ p ∈ pings

/-! ### Epochs are given out once -/

/-- Every epoch in sight was given out before, none of them twice, and a ping names the
registration that issued it. -/
structure Shared.Sound (acts : List Act) (d : Shared) : Prop where
  flight : d.flight.Sound
  once : (entered acts ++ d.drawn.map (·.2.epoch)).Nodup
  given : ∀ epoch ∈ entered acts ++ d.drawn.map (·.2.epoch), epoch < d.flight.monitor.nextEpoch
  stands : ∀ name r, d.probe? name = some r →
    ∃ r₀, .did (.registered name r₀) ∈ acts ∧ r₀.epoch = r.epoch
  inFlight : ∀ p, p ∈ d.flight.unanswered ∨ p ∈ d.flight.unchecked → IssuedUnder acts p

theorem IssuedUnder.mono {acts : List Act} {p : Ping} (h : IssuedUnder acts p) (a : Act) :
    IssuedUnder (acts ++ [a]) p := by
  obtain ⟨before, since, r, pings, rfl, he, hm, hp⟩ := h
  exact ⟨before, since ++ [a], r, pings, by simp, he, List.mem_append_left _ hm, hp⟩

theorem entered_concat (acts : List Act) (a : Act) :
    entered (acts ++ [a]) = entered acts ++ a.entered?.toList := by
  rw [entered, List.filterMap_append]
  cases ha : a.entered? <;> simp [entered, ha]

theorem entered?_did {e : Event} (hn : e.given = 0) : (Act.did e).entered? = none := by
  cases e with
  | registered => cases hn
  | unregistered | issued | acknowledged | timedOut | rescheduled => rfl

namespace Shared.Sound
variable {acts : List Act} {d : Shared}

theorem new (thresholds : Thresholds) (interval pingTimeout : Span) :
    Shared.Sound [] (.new thresholds interval pingTimeout) where
  flight := Flight.sound_new _ _ _
  once := List.nodup_nil
  given _ h := (nomatch h)
  stands _ _ h := absurd h (by simp [Shared.probe?, Shared.new, Flight.new])
  inFlight _ h := h.elim (fun h => (nomatch h)) fun h => (nomatch h)

theorem draw (s : Sound acts d) (name context : String) (thresholds : Thresholds) :
    Sound (acts ++ [.drew name ⟨d.flight.monitor.nextEpoch, context, .new thresholds⟩])
      ⟨{ d.flight with monitor := d.flight.monitor.draw },
        d.drawn ++ [(name, ⟨d.flight.monitor.nextEpoch, context, .new thresholds⟩)]⟩ := by
  -- The epoch that is drawn is later than all those that were given out.
  have hlater : ∀ {epoch}, epoch < d.flight.monitor.nextEpoch →
      epoch < d.flight.monitor.draw.nextEpoch := Nat.lt_succ_of_lt
  have hepochs : entered (acts ++ [.drew name
        ⟨d.flight.monitor.nextEpoch, context, .new thresholds⟩]) ++
      (d.drawn ++ [(name, (⟨d.flight.monitor.nextEpoch, context, .new thresholds⟩ :
        Registration))]).map (·.2.epoch) =
      (entered acts ++ d.drawn.map (·.2.epoch)) ++ [d.flight.monitor.nextEpoch] := by
    rw [entered_concat]
    simp [Act.entered?]
  refine ⟨⟨fun key r hr => hlater (s.flight.registered key r hr),
      fun p hp => hlater (s.flight.unanswered p hp),
      fun p hp => hlater (s.flight.unchecked p hp)⟩, ?_, ?_, fun key r hr => ?_,
    fun p hp => (s.inFlight p hp).mono _⟩
  · rw [hepochs]
    refine List.nodup_append.2
      ⟨s.once, List.nodup_cons.2 ⟨List.not_mem_nil, List.nodup_nil⟩, fun epoch he next hn heq => ?_⟩
    rw [heq, List.mem_singleton.1 hn] at he
    exact Nat.lt_irrefl _ (s.given _ he)
  · intro epoch he
    rcases List.mem_append.1 (hepochs ▸ he) with he | he
    · exact hlater (s.given epoch he)
    · rw [List.mem_singleton.1 he]
      exact Nat.lt_succ_self _
  · obtain ⟨r₀, hm, he⟩ := s.stands key r hr
    exact ⟨r₀, List.mem_append_left _ hm, he⟩

theorem enter (s : Sound acts d) {before after : List (String × Registration)} {name : String}
    {r : Registration} (h : d.drawn = before ++ (name, r) :: after) :
    Sound (acts ++ [.did (.registered name r)])
      ⟨{ d.flight with monitor := d.flight.monitor.enter name r }, before ++ after⟩ := by
  -- The epoch was drawn, and now it is entered.
  have hperm : (entered (acts ++ [.did (.registered name r)]) ++
      (before ++ after).map (·.2.epoch)).Perm (entered acts ++ d.drawn.map (·.2.epoch)) := by
    rw [entered_concat, h, List.append_assoc]
    refine List.Perm.append_left _ ?_
    simp only [Act.entered?, Option.toList_some, List.map_append, List.map_cons,
      List.singleton_append]
    exact List.perm_middle.symm
  have hdrawn : r.epoch < d.flight.monitor.nextEpoch :=
    s.given _ (List.mem_append_right _ (by simp [h]))
  refine ⟨⟨fun key r' hr => ?_, s.flight.unanswered, s.flight.unchecked⟩,
    hperm.nodup_iff.2 s.once, fun epoch he => s.given epoch (hperm.mem_iff.1 he),
    fun key r' hr => ?_, fun p hp => (s.inFlight p hp).mono _⟩
  · rw [Monitor.get?_enter] at hr
    split at hr
    next => cases hr; exact hdrawn
    next => exact s.flight.registered key r' hr
  · rw [Shared.probe?, Monitor.get?_enter] at hr
    split at hr
    next hk =>
      cases hr
      exact ⟨r, List.mem_append_right _ (hk ▸ List.mem_singleton_self _), rfl⟩
    next =>
      obtain ⟨r₀, hm, he⟩ := s.stands key r' hr
      exact ⟨r₀, List.mem_append_left _ hm, he⟩

/-- A ping that joins those in flight is issued under the registration that stands. -/
theorem issuedUnder_joining (s : Sound acts d) {e : Event} {f : Flight} (h : Step d.flight e f)
    {p : Ping} (hp : p ∈ e.joining) : IssuedUnder (acts ++ [.did e]) p := by
  obtain ⟨r, hr, he⟩ := h.joins hp
  obtain ⟨r₀, hm, he₀⟩ := s.stands p.probe r hr
  obtain ⟨before, since, rfl⟩ := List.append_of_mem hm
  cases e with
  | issued pings =>
      exact ⟨before, since ++ [.did (.issued pings)], r₀, pings, by simp, he₀.trans he.symm,
        List.mem_append_right _ (List.mem_singleton_self _), hp⟩
  | registered | unregistered | acknowledged | timedOut | rescheduled => cases hp

theorem access (s : Sound acts d) {e : Event} {f : Flight} (h : Step d.flight e f)
    (hn : e.given = 0) : Sound (acts ++ [.did e]) ⟨f, d.drawn⟩ := by
  have hepochs : entered (acts ++ [.did e]) = entered acts := by
    rw [entered_concat, entered?_did hn]
    exact List.append_nil _
  have hnext : f.monitor.nextEpoch = d.flight.monitor.nextEpoch := by rw [h.nextEpoch, hn]; rfl
  refine ⟨h.sound s.flight, hepochs ▸ s.once, ?_, fun name r hr => ?_, fun p hp => ?_⟩
  · rw [hepochs, hnext]
    exact s.given
  · rcases h.stands hr with ⟨r₁, hr₁, he⟩ | rfl
    · obtain ⟨r₀, hm, he₀⟩ := s.stands name r₁ hr₁
      exact ⟨r₀, List.mem_append_left _ hm, he₀.trans he.symm⟩
    · cases hn
  · have hmem : (p ∈ d.flight.unanswered ∨ p ∈ d.flight.unchecked) ∨ p ∈ e.joining :=
      hp.elim (fun hp => (h.unanswered.mem hp).imp_left .inl)
        fun hp => (h.unchecked.mem hp).imp_left .inr
    exact hmem.elim (fun hp => (s.inFlight p hp).mono _) (s.issuedUnder_joining h)

theorem turn {d' : Shared} {a : Act} (s : Sound acts d) (h : Turn d a d') :
    Sound (acts ++ [a]) d' := by
  cases h with
  | draw name context thresholds => exact s.draw name context thresholds
  | enter h => exact s.enter h
  | access h hn => exact s.access h hn

end Shared.Sound

/-! ### Two runs side by side -/

theorem Moves.sublist {pings pings' : List Ping} {leaving : Option Ping}
    (h : Moves pings leaving [] pings') : pings'.Sublist pings := by
  obtain ⟨before, after, rfl, rfl⟩ := h
  rw [List.append_nil]
  exact (List.sublist_append_left before _).append (.refl after)

/-- What the next ping of a registration depends on. -/
def Registration.numbers (r : Registration) : Nat × Nat := (r.epoch, r.probe.nextGeneration)

/-- Two monitors that agree but for the probes of other registrations of the name; the second may
have more pings in flight. -/
structure Twin (name : String) (epoch : Nat) (f g : Flight) : Prop where
  nextEpoch : g.monitor.nextEpoch = f.monitor.nextEpoch
  numbers : ∀ key, (g.monitor.probes.get? key).map Registration.numbers =
    (f.monitor.probes.get? key).map Registration.numbers
  probes : ∀ key r, f.monitor.probes.get? key = some r → (key = name → r.epoch = epoch) →
    g.monitor.probes.get? key = some r
  unanswered : f.unanswered.Sublist g.unanswered
  unchecked : f.unchecked.Sublist g.unchecked

/-- What becomes of a registration when something happens to its pings. -/
def Registration.after (name : String) (e : Event) (r : Registration) : Registration :=
  { r with probe := (e.pings name r.epoch).foldl Probe.after r.probe }

theorem Probe.nextGeneration_after (p : Probe) (e : PingEvent) :
    (p.after e).nextGeneration = p.nextGeneration + e.issued?.toList.length := by
  cases e with
  | issued | acknowledged => rfl
  | timedOut generation =>
      rw [after, timeOut]
      split <;> rfl

theorem Probe.nextGeneration_foldl (p : Probe) (h : History) :
    (h.foldl Probe.after p).nextGeneration = p.nextGeneration + h.issued.length := by
  induction h generalizing p with
  | nil => rfl
  | cons e h ih =>
      rw [List.foldl_cons, ih, nextGeneration_after, History.issued, History.issued,
        List.filterMap_cons]
      cases e.issued? with
      | none => rfl
      | some =>
          rw [Option.toList_some, List.length_singleton, List.length_cons]
          omega

/-- The numbers of a registration go on from its numbers. -/
theorem Registration.numbers_after (name : String) (e : Event) (r : Registration) :
    (r.after name e).numbers =
      (r.numbers.1, r.numbers.2 + (e.pings name r.numbers.1).issued.length) := by
  rw [numbers, after, Probe.nextGeneration_foldl]
  rfl

/-- An element of a sublist can be dropped from both lists. -/
theorem sublist_drop {α : Type} {before after l : List α} {a : α}
    (h : (before ++ a :: after).Sublist l) :
    ∃ before' after', l = before' ++ a :: after' ∧
      (before ++ after).Sublist (before' ++ after') := by
  obtain ⟨l₁, l₂, rfl, h₁, h₂⟩ := List.append_sublist_iff.1 h
  obtain ⟨l₃, l₄, rfl, hm, h₄⟩ := List.cons_sublist_iff.1 h₂
  obtain ⟨s, t, rfl⟩ := List.append_of_mem hm
  refine ⟨l₁ ++ s, t ++ l₄, by simp, ?_⟩
  exact (h₁.trans (List.sublist_append_left _ _)).append
    (h₄.trans (List.sublist_append_right _ _))

/-- The pings that one context is sent. -/
theorem pings_ping (m : Monitor) (key : String) (timeout : Span) (now : Tick) :
    (m.ping key timeout now).2.1.toList.map (·.ping) =
      ((m.probes.get? key).map Registration.numbers).toList.map
        fun n => ⟨key, n.1, n.2, now⟩ := by
  rw [Monitor.ping]
  cases m.probes.get? key <;> rfl

/-- The pings of a cycle. -/
theorem pings_cycle (m : Monitor) (now : Tick) :
    (m.cycle now).2.map (·.ping) =
      (m.probes.map Registration.numbers).entries.map fun n => ⟨n.1, n.2.1, n.2.2, now⟩ := by
  simp only [Monitor.cycle, Table.map, List.map_map]
  rfl

namespace Twin
variable {name : String} {epoch : Nat} {f g f' g' : Flight} {e : Event}

theorem refl (name : String) (epoch : Nat) (f : Flight) : Twin name epoch f f :=
  ⟨rfl, fun _ => rfl, fun _ _ h _ => h, .refl _, .refl _⟩

/-- The second monitor can do what the first does, and to the same pings. -/
theorem follow (t : Twin name epoch f g) (h : Step f e f') (hn : e.given = 0) :
    ∃ g', Step g e g' ∧ f'.unanswered.Sublist g'.unanswered ∧
      f'.unchecked.Sublist g'.unchecked := by
  have hun := h.unanswered
  have hch := h.unchecked
  cases h with
  | register => cases hn
  | unregister key => exact ⟨_, .unregister g key, t.unanswered, t.unchecked⟩
  | reschedule ticker => exact ⟨_, .reschedule g ticker, t.unanswered, t.unchecked⟩
  | @ping key timeout now m delivery _ h =>
      rcases hg : g.monitor.ping key timeout now with ⟨m', delivery', notices'⟩
      have hpings : delivery'.toList.map (·.ping) = delivery.toList.map (·.ping) := by
        have hf := pings_ping f.monitor key timeout now
        have hg' := pings_ping g.monitor key timeout now
        rw [h] at hf
        rw [hg] at hg'
        rw [hf, hg', t.numbers]
      have hstep := Step.ping g hg
      have hch' := hstep.unchecked
      rw [hpings] at hstep hch'
      refine ⟨_, hstep, t.unanswered.append (.refl _), ?_⟩
      rw [hch.eq_append, hch'.eq_append]
      exact t.unchecked.append (.refl _)
  | @cycle now m deliveries h =>
      rcases hg : g.monitor.cycle now with ⟨m', deliveries'⟩
      have htable : g.monitor.probes.map Registration.numbers =
          f.monitor.probes.map Registration.numbers := Table.ext fun key => by
        rw [Table.get?_map, Table.get?_map, t.numbers]
      have hpings : deliveries'.map (·.ping) = deliveries.map (·.ping) := by
        have hf := pings_cycle f.monitor now
        have hg' := pings_cycle g.monitor now
        rw [h] at hf
        rw [hg] at hg'
        rw [hf, hg', htable]
      have hstep := Step.cycle g hg
      have hch' := hstep.unchecked
      rw [hpings] at hstep hch'
      refine ⟨_, hstep, t.unanswered.append (.refl _), ?_⟩
      rw [hch.eq_append, hch'.eq_append]
      exact t.unchecked.append (.refl _)
  | @acknowledge before after p now h =>
      obtain ⟨before', after', hg, hsub⟩ := sublist_drop (h ▸ t.unanswered)
      have hstep := Step.acknowledge g now hg
      refine ⟨_, hstep, hsub, ?_⟩
      rw [hch.eq_self, hstep.unchecked.eq_self]
      exact t.unchecked
  | @check before after c h =>
      have hf : f.unchecked = before.map (·.ping) ++ c.ping :: after.map (·.ping) := by
        simp [Flight.unchecked, h]
      obtain ⟨before', after', hg, hsub⟩ := sublist_drop (hf ▸ t.unchecked)
      -- The check of that ping, whatever time it leaves.
      obtain ⟨cs, rest, hgc, rfl, hrest⟩ := List.map_eq_append_iff.1 hg
      obtain ⟨c', cs', rfl, hc, rfl⟩ := List.map_eq_cons_iff.1 hrest
      have hstep := Step.check g hgc
      rw [hc] at hstep
      refine ⟨_, hstep, t.unanswered, ?_⟩
      simpa [Flight.unchecked, Monitor.checks_check] using hsub

/-- Both monitors did the same. -/
theorem of_steps (t : Twin name epoch f g) (h : Step f e f') (h' : Step g e g')
    (hun : f'.unanswered.Sublist g'.unanswered) (hch : f'.unchecked.Sublist g'.unchecked)
    (hn : e.given = 0) : Twin name epoch f' g' := by
  have hremoved : ∀ key, e.Replaces key →
      f'.monitor.probes.get? key = none ∧ g'.monitor.probes.get? key = none := by
    rintro key (⟨r, rfl⟩ | rfl)
    · cases hn
    · cases h
      cases h'
      rw [Monitor.get?_unregister, Monitor.get?_unregister, if_pos rfl]
      exact ⟨rfl, if_pos rfl⟩
  refine ⟨by rw [h.nextEpoch, h'.nextEpoch, t.nextEpoch], fun key => ?_, fun key r hr hk => ?_,
    hun, hch⟩
  · by_cases hrep : e.Replaces key
    · rw [(hremoved key hrep).1, (hremoved key hrep).2]
    · -- The numbers after an event depend only on the numbers before it.
      have hnum : ∀ m : Monitor,
          ((m.probes.get? key).map (Registration.after key e)).map Registration.numbers =
            ((m.probes.get? key).map Registration.numbers).map
              fun n => (n.1, n.2 + (e.pings key n.1).issued.length) := fun m => by
        rw [Option.map_map, Option.map_map]
        exact congrArg (Option.map · _) (funext fun r => r.numbers_after key e)
      rw [h.get? key hrep, h'.get? key hrep]
      exact (hnum g.monitor).trans ((congrArg (Option.map _) (t.numbers key)).trans
        (hnum f.monitor).symm)
  · have hrep : ¬ e.Replaces key := fun hrep => by
      rw [(hremoved key hrep).1] at hr
      cases hr
    rw [h.get? key hrep] at hr
    obtain ⟨r₀, hr₀, rfl⟩ := Option.map_eq_some_iff.1 hr
    rw [h'.get? key hrep, t.probes key r₀ hr₀ hk]
    rfl

/-- Only the first monitor gets to know of an answer or check of another registration. -/
theorem skip (t : Twin name epoch f g) (h : Step f e f')
    (ho : (Act.did e).isForeign name epoch = true) : Twin name epoch f' g := by
  obtain ⟨p, hp, hname, hepoch⟩ := Act.isForeign_iff.1 ho
  have hrep : ∀ key, ¬ e.Replaces key := fun key => Act.not_replaces_of_settled hp
  have hun : f'.unanswered.Sublist f.unanswered := by
    have hmoves := h.unanswered
    rw [Act.joining_of_settled hp] at hmoves
    exact Moves.sublist hmoves
  have hch : f'.unchecked.Sublist f.unchecked := by
    have hmoves := h.unchecked
    rw [Act.joining_of_settled hp] at hmoves
    exact Moves.sublist hmoves
  refine ⟨?_, fun key => ?_, fun key r hr hk => ?_, hun.trans t.unanswered,
    hch.trans t.unchecked⟩
  · rw [h.nextEpoch, Act.given_of_settled hp, t.nextEpoch]
    rfl
  · rw [h.get? key (hrep key), Option.map_map, t.numbers key]
    refine Option.map_congr fun r _ => ?_
    have hafter := r.numbers_after key e
    rw [Act.issued_of_settled hp] at hafter
    exact hafter.symm
  · rw [h.get? key (hrep key)] at hr
    obtain ⟨r₀, hr₀, rfl⟩ := Option.map_eq_some_iff.1 hr
    -- A registration that both monitors agree on did not issue the ping.
    have hother : ¬ p.isOf key r₀.epoch = true := fun hof => by
      obtain ⟨hkey, he⟩ := Ping.isOf_iff.1 hof
      exact hepoch (he.symm.trans (hk (hkey.trans hname)))
    rw [Act.pings_of_settled hp hother]
    exact t.probes key r₀ hr₀ hk

end Twin

/-- The second monitor does not miss what it needs for the next turn. -/
theorem Turn.twin {name : String} {epoch : Nat} {d d' : Shared} {g : Flight} {a : Act}
    (t : Twin name epoch d.flight g) (h : Turn d a d') :
    ∃ g', Run Turn ⟨g, d.drawn⟩ ([a].filter (!·.isForeign name epoch)) ⟨g', d'.drawn⟩ ∧
      Twin name epoch d'.flight g' := by
  cases h with
  | draw key context thresholds =>
      have hdraw := Turn.draw ⟨g, d.drawn⟩ key context thresholds
      rw [t.nextEpoch] at hdraw
      exact ⟨_, .one hdraw, congrArg (· + 1) t.nextEpoch, t.numbers, t.probes, t.unanswered,
        t.unchecked⟩
  | @enter before after key r h =>
      refine ⟨_, .one (.enter ⟨g, d.drawn⟩ h), t.nextEpoch, fun k => ?_, fun k r' hr hk => ?_,
        t.unanswered, t.unchecked⟩
      · rw [Monitor.get?_enter, Monitor.get?_enter]
        split
        next => rfl
        next => exact t.numbers k
      · rw [Monitor.get?_enter] at hr ⊢
        split at hr
        next hkey => rw [if_pos hkey, hr]
        next hkey => rw [if_neg hkey, t.probes k r' hr hk]
  | @access e f h hn =>
      by_cases ho : (Act.did e).isForeign name epoch = true
      · rw [List.filter_cons_of_neg (by simp [ho])]
        exact ⟨g, .refl _, t.skip h ho⟩
      · obtain ⟨g', hg, hun, hch⟩ := t.follow h hn
        rw [List.filter_cons_of_pos (by simp [ho])]
        exact ⟨g', .one (.access ⟨g, d.drawn⟩ hg hn), t.of_steps h hg hun hch hn⟩

/-- Answers and checks of other registrations can be deleted from a run. -/
theorem twin_of_run (name : String) (epoch : Nat) {d d' : Shared} {acts : List Act}
    (h : Run Turn d acts d') :
    ∃ g, Run Turn d (acts.filter (!·.isForeign name epoch)) ⟨g, d'.drawn⟩ ∧
      Twin name epoch d'.flight g := by
  refine Run.history (I := fun acts d' => ∃ g, Run Turn d
    (acts.filter (!·.isForeign name epoch)) ⟨g, d'.drawn⟩ ∧ Twin name epoch d'.flight g)
    ⟨d.flight, .refl d, .refl name epoch _⟩ (fun ⟨g, hrun, t⟩ hturn => ?_) h
  obtain ⟨g', hnext, t'⟩ := hturn.twin t
  rw [List.filter_append]
  exact ⟨g', hrun.trans hnext, t'⟩

/-! ### What a turn does to a registration -/

/-- What becomes of what is registered under a name. -/
def Act.effect (name : String) : Act → Option Registration → Option Registration
  | .drew .., o => o
  | .did (.registered key r), o => if name = key then some r else o
  | .did (.unregistered key), o => if name = key then none else o
  | .did e, o => o.map (Registration.after name e)

theorem Turn.probe? {d d' : Shared} {a : Act} (h : Turn d a d') (name : String) :
    d'.probe? name = a.effect name (d.probe? name) := by
  cases h with
  | draw => rfl
  | enter => exact Monitor.get?_enter ..
  | @access e f h hn =>
      cases e with
      | registered => cases hn
      | unregistered key =>
          cases h
          exact Monitor.get?_unregister ..
      | issued | acknowledged | timedOut | rescheduled =>
          exact h.get? name (by simp [Event.Replaces])

/-- A registration that is not replaced still stands. -/
theorem Act.effect_stays {a : Act} {name : String} (hn : ¬ a.Replaces name) (r : Registration) :
    ∃ r', a.effect name (some r) = some r' ∧ r'.epoch = r.epoch := by
  cases a with
  | drew => exact ⟨r, rfl, rfl⟩
  | did e =>
      cases e with
      | registered key r₁ =>
          have hne : name ≠ key := fun hk => hn (Or.inl ⟨r₁, by rw [hk]⟩)
          exact ⟨r, if_neg hne, rfl⟩
      | unregistered key =>
          have hne : name ≠ key := fun hk => hn (Or.inr (by rw [hk]))
          exact ⟨r, if_neg hne, rfl⟩
      | issued | acknowledged | timedOut | rescheduled => exact ⟨_, rfl, rfl⟩

theorem stays_of_run {d d' : Shared} {since : List Act} {name : String} {r : Registration}
    (h : Run Turn d since d') (hr : d.probe? name = some r)
    (hn : ∀ a ∈ since, ¬ a.Replaces name) :
    ∃ r', d'.probe? name = some r' ∧ r'.epoch = r.epoch := by
  induction h generalizing r with
  | refl => exact ⟨r, hr, rfl⟩
  | more h _ ih =>
      obtain ⟨r₁, hr₁, he₁⟩ := Act.effect_stays (hn _ List.mem_cons_self) r
      obtain ⟨r', hr', he'⟩ := ih ((h.probe? name).trans (hr ▸ hr₁)) fun a ha =>
        hn a (List.mem_cons_of_mem _ ha)
      exact ⟨r', hr', he'.trans he₁⟩

/-- What is registered depends on what the threads do, and on nothing else. -/
theorem probe?_of_run {d d' : Shared} {acts : List Act} (h : Run Turn d acts d') (name : String) :
    d'.probe? name = acts.foldl (fun o a => a.effect name o) (d.probe? name) := by
  induction h with
  | refl => rfl
  | more h _ ih => rw [ih, h.probe? name, List.foldl_cons]

/-- What is answered or checked was in flight. -/
theorem Turn.inFlight {d d' : Shared} {a : Act} {p : Ping} (h : Turn d a d')
    (hp : a.settled? = some p) : p ∈ d.flight.unanswered ∨ p ∈ d.flight.unchecked := by
  cases h with
  | draw => cases hp
  | enter => cases hp
  | access h _ =>
      rcases Act.settled?_did hp with ⟨now, rfl⟩ | rfl
      · obtain ⟨before, after, hun, -⟩ := h.unanswered.leaves
        exact Or.inl (by simp [hun])
      · obtain ⟨before, after, hch, -⟩ := h.unchecked.leaves
        exact Or.inr (by simp [hch])

/-- An answer or a check changes at most the probe of the registration that issued the ping. -/
theorem Turn.settles {acts : List Act} {d d' : Shared} {a : Act} {p : Ping}
    (s : Shared.Sound acts d) (h : Turn d a d') (hp : a.settled? = some p) {name : String}
    (hc : d'.probe? name ≠ d.probe? name) :
    name = p.probe ∧ (∃ r, d.probe? name = some r ∧ r.epoch = p.epoch) ∧ IssuedUnder acts p := by
  cases h with
  | draw => cases hp
  | enter => cases hp
  | @access e f h hn =>
      have hmem := (Turn.access d h hn).inFlight hp
      have hget : (Shared.mk f d.drawn).probe? name =
          (d.probe? name).map (Registration.after name e) :=
        h.get? name (Act.not_replaces_of_settled hp)
      rw [hget] at hc
      cases hr : d.probe? name with
      | none =>
          rw [hr] at hc
          exact absurd rfl hc
      | some r =>
          by_cases hof : p.isOf name r.epoch = true
          · obtain ⟨hname, he⟩ := Ping.isOf_iff.1 hof
            exact ⟨hname, ⟨r, rfl, he⟩, s.inFlight p hmem⟩
          · rw [hr, Option.map_some, Registration.after, Act.pings_of_settled hp hof] at hc
            exact absurd rfl hc

/-! ### Isolation -/

/-- A registration shows from when it is entered until its name is registered anew or removed what
it would show if no ping of another registration of the name were ever answered or checked.  All
epochs are different, and an answer or a check reaches at most the registration that issued the
ping. -/
theorem registrations_isolated {thresholds : Thresholds} {interval pingTimeout : Span}
    {acts : List Act} {d : Shared} (h : Run Turn (.new thresholds interval pingTimeout) acts d) :
    Shared.Sound acts d ∧
      (∀ before since name r, acts = before ++ .did (.registered name r) :: since →
        (∀ a ∈ since, ¬ a.Replaces name) →
        ∃ r', d.probe? name = some r' ∧ r'.epoch = r.epoch ∧
          (∃ d', Run Turn (.new thresholds interval pingTimeout)
            (acts.filter (!·.isForeign name r.epoch)) d') ∧
          ∀ d', Run Turn (.new thresholds interval pingTimeout)
            (acts.filter (!·.isForeign name r.epoch)) d' → d'.probe? name = some r') ∧
      ∀ a d' p name, Turn d a d' → a.settled? = some p → d'.probe? name ≠ d.probe? name →
        name = p.probe ∧ (∃ r, d.probe? name = some r ∧ r.epoch = p.epoch) ∧
          IssuedUnder acts p := by
  have hsound : Shared.Sound acts d :=
    Run.history (.new thresholds interval pingTimeout) (fun s hturn => s.turn hturn) h
  refine ⟨hsound, fun before since name r hacts hn => ?_,
    fun a d' p name hturn hp hc => hturn.settles hsound hp hc⟩
  subst hacts
  obtain ⟨d₁, d₂, -, henter, hsince⟩ := h.split_at
  have hentered : d₂.probe? name = some r := by
    cases henter with
    | enter => rw [Shared.probe?, Monitor.get?_enter, if_pos rfl]
    | access _ hn => cases hn
  obtain ⟨r', hr', he⟩ := stays_of_run hsince hentered hn
  obtain ⟨g, hrun, t⟩ := twin_of_run name r.epoch h
  refine ⟨r', hr', he, ⟨_, hrun⟩, fun d' hrun' => ?_⟩
  -- Any other run of the same turns shows the same registrations.
  rw [probe?_of_run hrun' name, ← probe?_of_run hrun name]
  exact t.probes name r' hr' fun _ => he

/-- Two registrations of a name, a ping of each with the same generation, and a late answer to the
first one. -/
theorem registrations_isolated_replaced :
    let bounds : Thresholds := ⟨1, 3, 3⟩
    let p₀ : Ping := ⟨"ui", 0, 0, 0⟩
    let p₁ : Ping := ⟨"ui", 1, 0, 5⟩
    let kept : List Act :=
      [.drew "ui" ⟨0, "main", .new bounds⟩, .did (.registered "ui" ⟨0, "main", .new bounds⟩),
        .did (.issued [p₀]), .drew "ui" ⟨1, "main", .new bounds⟩,
        .did (.registered "ui" ⟨1, "main", .new bounds⟩), .did (.issued [p₁])]
    ∃ d d' r, Run Turn (.new bounds 4 2) (kept ++ [.did (.acknowledged p₀ 6)]) d ∧
      Run Turn (.new bounds 4 2) kept d' ∧
      d.probe? "ui" = some r ∧ d'.probe? "ui" = some r ∧ r.epoch = 1 := by
  intro bounds p₀ p₁ kept
  let d₁ : Shared := ⟨{ monitor := (Flight.new bounds 4 2).monitor.draw, unanswered := [] },
    [("ui", ⟨0, "main", .new bounds⟩)]⟩
  let d₂ : Shared := ⟨⟨d₁.flight.monitor.enter "ui" ⟨0, "main", .new bounds⟩, []⟩, []⟩
  let d₃ : Shared := ⟨⟨(d₂.flight.monitor.cycle 0).1, [p₀]⟩, []⟩
  let d₄ : Shared := ⟨⟨d₃.flight.monitor.draw, [p₀]⟩, [("ui", ⟨1, "main", .new bounds⟩)]⟩
  let d₅ : Shared := ⟨⟨d₄.flight.monitor.enter "ui" ⟨1, "main", .new bounds⟩, [p₀]⟩, []⟩
  let d₆ : Shared := ⟨⟨(d₅.flight.monitor.cycle 5).1, [p₀, p₁]⟩, []⟩
  let d₇ : Shared := ⟨⟨d₆.flight.monitor.acknowledge p₀ 6, [p₁]⟩, []⟩
  have h₁ : Turn (.new bounds 4 2) (.drew "ui" ⟨0, "main", .new bounds⟩) d₁ :=
    .draw _ "ui" "main" bounds
  have h₂ : Turn d₁ (.did (.registered "ui" ⟨0, "main", .new bounds⟩)) d₂ :=
    @Turn.enter d₁ [] [] _ _ rfl
  have h₃ : Turn d₂ (.did (.issued [p₀])) d₃ := .access d₂ (@Step.cycle d₂.flight 0 _ _ rfl) rfl
  have h₄ : Turn d₃ (.drew "ui" ⟨1, "main", .new bounds⟩) d₄ := .draw d₃ "ui" "main" bounds
  have h₅ : Turn d₄ (.did (.registered "ui" ⟨1, "main", .new bounds⟩)) d₅ :=
    @Turn.enter d₄ [] [] _ _ rfl
  have hcycle : (d₅.flight.monitor.cycle 5).2 = [⟨"main", p₁⟩] := by decide
  have h₆ : Turn d₅ (.did (.issued [p₁])) d₆ :=
    .access d₅ (@Step.cycle d₅.flight 5 _ [⟨"main", p₁⟩] (Prod.ext rfl hcycle)) rfl
  have h₇ : Turn d₆ (.did (.acknowledged p₀ 6)) d₇ :=
    .access d₆ (@Step.acknowledge d₆.flight [] [p₁] p₀ 6 rfl) rfl
  have hkept : Run Turn (.new bounds 4 2) kept d₆ :=
    .more h₁ (.more h₂ (.more h₃ (.more h₄ (.more h₅ (.one h₆)))))
  have h : Run Turn (.new bounds 4 2) (kept ++ [.did (.acknowledged p₀ 6)]) d₇ :=
    hkept.trans (.one h₇)
  obtain ⟨r, hr, he, -, hr'⟩ := (registrations_isolated h).2.1 (kept.take 4)
    [.did (.issued [p₁]), .did (.acknowledged p₀ 6)] "ui" ⟨1, "main", .new bounds⟩ rfl
    (by simp [Act.Replaces, Event.Replaces])
  exact ⟨d₇, d₆, r, h, hkept, hr, hr' d₆ hkept, he⟩

end Vigil.Health
