import Mathlib.Data.List.Nodup
import Vigil.Proofs.Health.Isolation

/-!
# Health — probes do not affect each other

What a monitor shows of a name depends on the calls that concern the name: its registrations and
removals, pings of it, cycles, and the answers and checks of its pings (`Call.concerns`).  Which
other names there are, and whether their contexts answer, does not matter, except for the epochs of
the registrations: they are counted for all names together, so two runs agree up to another choice
of epochs (`Registration.rename`).

* `probe?_of_calls`: what is registered under a name is told by the calls that concern it.
* `foldl_rename`: with other epochs the same calls lead to the same probe.

**Main theorem** (`unaffected`): two runs with the same calls that concern a name show the same of
it.
-/

namespace Vigil.Health

/-! ### Calls -/

/-- What a thread asks of a monitor. -/
inductive Call where
  | ping (name : String) (timeout : Span) (now : Tick)
  /-- Every context is pinged, for a caller or by the scheduler. -/
  | cycle (now : Tick)
  /-- Anything else. -/
  | act (a : Act)

/-- A turn, by what it was asked for. -/
inductive Made : Shared → Call → Shared → Prop where
  | ping (d : Shared) (name : String) (timeout : Span) (now : Tick) :
      Made d (.ping name timeout now)
        ⟨⟨(d.flight.monitor.ping name timeout now).1, d.flight.unanswered ++
          (d.flight.monitor.ping name timeout now).2.1.toList.map (·.ping)⟩, d.drawn⟩
  | cycle (d : Shared) (now : Tick) :
      Made d (.cycle now)
        ⟨⟨(d.flight.monitor.cycle now).1, d.flight.unanswered ++
          (d.flight.monitor.cycle now).2.map (·.ping)⟩, d.drawn⟩
  | act {d d' : Shared} {a : Act} (h : Turn d a d') (hi : ∀ pings, a ≠ .did (.issued pings)) :
      Made d (.act a) d'

variable {d d' : Shared} {c : Call} {calls : List Call} {b : String} {ρ : Nat → Nat}

namespace Call

/-- The epoch of a registration that is entered. -/
def entered? : Call → Option Nat
  | .act a => a.entered?
  | _ => none

/-- The call concerns a name. -/
def concerns (b : String) : Call → Bool
  | .ping name .. => name == b
  | .cycle _ => true
  | .act (.did (.registered name _)) | .act (.did (.unregistered name)) => name == b
  | .act (.did (.acknowledged p _)) | .act (.did (.timedOut p)) => p.probe == b
  | .act _ => false

/-- What becomes of what is registered under a name. -/
def effect (b : String) : Call → Option Registration → Option Registration
  | .ping name _ now, o => o.map fun r => if b = name then r.issue now else r
  | .cycle now, o => o.map (·.issue now)
  | .act a, o => a.effect b o

end Call

/-- A call is a turn. -/
theorem Made.turn (h : Made d c d') :
    ∃ a, Turn d a d' ∧ a.entered? = c.entered? ∧
      ∀ name r, a = .did (.registered name r) → c = .act (.did (.registered name r)) := by
  cases h with
  | ping name timeout now =>
      have hping : d.flight.monitor.ping name timeout now = (_, _, _) := rfl
      exact ⟨_, .access d (.ping d.flight hping) rfl, rfl, fun _ _ h => by cases h⟩
  | cycle now =>
      have hcycle : d.flight.monitor.cycle now = (_, _) := rfl
      exact ⟨_, .access d (.cycle d.flight hcycle) rfl, rfl, fun _ _ h => by cases h⟩
  | act h => exact ⟨_, h, rfl, fun _ _ h => congrArg Call.act h⟩

theorem Made.probe? (h : Made d c d') (b : String) :
    d'.probe? b = c.effect b (d.probe? b) := by
  cases h with
  | ping name timeout now => exact d.flight.monitor.get?_ping name timeout now b
  | cycle now => exact d.flight.monitor.get?_cycle now b
  | act h => exact h.probe? b

/-- Another call does not matter. -/
theorem Made.probe?_of_not_concerns (h : Made d c d') (hc : c.concerns b = false) :
    d'.probe? b = d.probe? b := by
  rw [h.probe? b]
  have hmap : ∀ (o : Option Registration) {f : Registration → Registration},
      (∀ r, f r = r) → o.map f = o := fun o f hf => by
    rw [funext hf, Option.map_id']
  cases h with
  | ping name timeout now =>
      have hne : b ≠ name := fun heq => by simp [Call.concerns, heq] at hc
      exact hmap _ fun r => if_neg hne
  | cycle => cases hc
  | @act _ a h hi =>
      cases a with
      | drew => rfl
      | did e =>
          cases e with
          | registered name r | unregistered name =>
              have hne : b ≠ name := fun heq => by simp [Call.concerns, heq] at hc
              exact if_neg hne
          | issued pings => exact absurd rfl (hi pings)
          | acknowledged p now | timedOut p =>
              have hne : b ≠ p.probe := fun heq => by simp [Call.concerns, heq] at hc
              have hof : ∀ epoch, ¬ p.isOf b epoch = true := fun _ hof =>
                hne (Ping.isOf_iff.1 hof).1
              refine hmap _ fun r => ?_
              rw [Registration.after, Event.pings, if_neg (hof r.epoch)]
              rfl
          | rescheduled => exact hmap _ fun r => rfl

/-- What is registered under a name is told by the calls that concern it. -/
theorem probe?_of_calls (h : Run Made d calls d') (b : String) :
    d'.probe? b =
      (calls.filter (·.concerns b)).foldl (fun o c => c.effect b o) (d.probe? b) := by
  induction h with
  | refl => rfl
  | @more _ _ _ c _ h _ ih =>
      cases hc : c.concerns b with
      | true => rw [ih, List.filter_cons_of_pos hc, List.foldl_cons, h.probe? b]
      | false =>
          rw [ih, List.filter_cons_of_neg (by simp [hc]), h.probe?_of_not_concerns hc]

/-! ### Other epochs -/

/-- The registration with another epoch. -/
def Registration.rename (ρ : Nat → Nat) (r : Registration) : Registration :=
  { r with epoch := ρ r.epoch }

/-- The ping of the registration with another epoch. -/
def Ping.rename (ρ : Nat → Nat) (p : Ping) : Ping := { p with epoch := ρ p.epoch }

/-- The call with other epochs. -/
def Call.rename (ρ : Nat → Nat) : Call → Call
  | .act (.did (.registered name r)) => .act (.did (.registered name (r.rename ρ)))
  | .act (.did (.acknowledged p now)) => .act (.did (.acknowledged (p.rename ρ) now))
  | .act (.did (.timedOut p)) => .act (.did (.timedOut (p.rename ρ)))
  | c => c

theorem Call.entered?_rename (c : Call) : (c.rename ρ).entered? = c.entered?.map ρ := by
  cases c with
  | ping | cycle => rfl
  | act a =>
      cases a with
      | drew => rfl
      | did e => cases e <;> rfl

/-- The epochs that a call names are among the given ones; which pings it issues is not its own. -/
def Call.Within (E : Nat → Prop) : Call → Prop
  | .act (.did (.registered _ r)) => E r.epoch
  | .act (.did (.acknowledged p _)) | .act (.did (.timedOut p)) => E p.epoch
  | .act (.did (.issued _)) => False
  | _ => True

section
variable {E : Nat → Prop} (hρ : ∀ x y, E x → E y → ρ x = ρ y → x = y)
include hρ

/-- A ping is one of a registration whatever the epochs are. -/
theorem isOf_rename {p : Ping} {epoch : Nat} (hp : E p.epoch) (he : E epoch) :
    (p.rename ρ).isOf b (ρ epoch) = p.isOf b epoch := by
  rw [Bool.eq_iff_iff, Ping.isOf_iff, Ping.isOf_iff]
  exact and_congr_right fun _ => ⟨hρ _ _ he hp, congrArg ρ⟩

theorem Call.effect_rename (hc : c.Within E) {o : Option Registration}
    (ho : ∀ r ∈ o, E r.epoch) :
    (c.rename ρ).effect b (o.map (·.rename ρ)) = (c.effect b o).map (·.rename ρ) ∧
      ∀ r ∈ c.effect b o, E r.epoch := by
  have hmap : ∀ {f g : Registration → Registration},
      (∀ r ∈ o, f (r.rename ρ) = (g r).rename ρ ∧ (g r).epoch = r.epoch) →
      (o.map (·.rename ρ)).map f = (o.map g).map (·.rename ρ) ∧ ∀ r ∈ o.map g, E r.epoch :=
    fun {f g} hfg => by
      refine ⟨?_, fun r hr => ?_⟩
      · rw [Option.map_map, Option.map_map]
        exact Option.map_congr fun r hr => (hfg r hr).1
      · obtain ⟨r₀, hr₀, rfl⟩ := Option.map_eq_some_iff.1 hr
        rw [(hfg r₀ hr₀).2]
        exact ho r₀ hr₀
  cases c with
  | ping name timeout now =>
      refine hmap fun r _ => ?_
      split <;> exact ⟨rfl, rfl⟩
  | cycle now => exact hmap fun r _ => ⟨rfl, rfl⟩
  | act a =>
      cases a with
      | drew => exact ⟨rfl, ho⟩
      | did e =>
          cases e with
          | registered name r =>
              change (if b = name then _ else _) = (if b = name then _ else _ : Option _).map _ ∧
                ∀ r : Registration, r ∈ (if b = name then _ else _) → E r.epoch
              split
              next => exact ⟨rfl, fun _ hr => Option.some.inj hr ▸ hc⟩
              next => exact ⟨rfl, ho⟩
          | unregistered name =>
              change (if b = name then _ else _) = (if b = name then _ else _ : Option _).map _ ∧
                ∀ r : Registration, r ∈ (if b = name then _ else _) → E r.epoch
              split
              next => exact ⟨rfl, fun _ hr => nomatch hr⟩
              next => exact ⟨rfl, ho⟩
          | issued => exact hc.elim
          | acknowledged p now | timedOut p =>
              refine hmap fun r hr => ⟨?_, rfl⟩
              have hof := isOf_rename (b := b) hρ hc (ho r hr)
              rw [Registration.after, Registration.after, Event.pings, Event.pings,
                Registration.rename, hof]
              rfl
          | rescheduled => exact hmap fun r _ => ⟨rfl, rfl⟩

/-- With other epochs the same calls lead to the same probe. -/
theorem foldl_rename (hcalls : ∀ c ∈ calls, c.Within E) {o : Option Registration}
    (ho : ∀ r ∈ o, E r.epoch) :
    (calls.map (·.rename ρ)).foldl (fun o c => c.effect b o) (o.map (·.rename ρ)) =
      (calls.foldl (fun o c => c.effect b o) o).map (·.rename ρ) := by
  induction calls generalizing o with
  | nil => rfl
  | cons c calls ih =>
      obtain ⟨hc, hcalls⟩ := List.forall_mem_cons.1 hcalls
      obtain ⟨heq, ho'⟩ := Call.effect_rename (b := b) hρ hc ho
      rw [List.map_cons, List.foldl_cons, List.foldl_cons, heq]
      exact ih hcalls ho'

end

/-! ### Two runs -/

/-- A run of calls is a run of turns, in which the same registrations are entered. -/
theorem turns_of_calls (h : Run Made d calls d') :
    ∃ acts, Run Turn d acts d' ∧ entered acts = calls.filterMap Call.entered? ∧
      ∀ name r, .did (.registered name r) ∈ acts → .act (.did (.registered name r)) ∈ calls := by
  induction h with
  | refl => exact ⟨[], .refl _, rfl, fun _ _ h => nomatch h⟩
  | more h _ ih =>
      obtain ⟨a, hturn, hentered, hreg⟩ := h.turn
      obtain ⟨acts, hrun, hall, hregs⟩ := ih
      refine ⟨a :: acts, .more hturn hrun, ?_, fun name r hmem => ?_⟩
      · rw [entered] at hall
        rw [entered, List.filterMap_cons, List.filterMap_cons, hentered, hall]
      · rcases List.mem_cons.1 hmem with heq | hmem
        · exact List.mem_cons.2 (Or.inl (hreg name r heq.symm).symm)
        · exact List.mem_cons_of_mem _ (hregs name r hmem)

/-- The epochs of the registrations of a name, in the order in which they were entered. -/
def epochs (b : String) (calls : List Call) : List Nat :=
  (calls.filter (·.concerns b)).filterMap Call.entered?

section
variable {thresholds : Thresholds} {interval pingTimeout : Span}

/-- The registrations of a name have different epochs. -/
theorem nodup_epochs (h : Run Made (.new thresholds interval pingTimeout) calls d) (b : String) :
    (epochs b calls).Nodup := by
  obtain ⟨acts, hrun, hentered, -⟩ := turns_of_calls h
  have hsound : Shared.Sound acts d :=
    Run.history (.new thresholds interval pingTimeout) (fun s hturn => s.turn hturn) hrun
  have honce := (List.nodup_append.1 hsound.once).1
  rw [hentered] at honce
  rw [epochs]
  exact honce.sublist (List.filter_sublist.filterMap _)

/-- The calls that concern a name tell of the epochs of its registrations only. -/
theorem within_epochs (h : Run Made (.new thresholds interval pingTimeout) calls d) :
    ∀ c ∈ calls.filter (·.concerns b), c.Within (· ∈ epochs b calls) := by
  intro c hc
  obtain ⟨hmem, hconcerns⟩ := List.mem_filter.1 hc
  have hentry : ∀ {r}, .act (.did (.registered b r)) ∈ calls → r.epoch ∈ epochs b calls :=
    fun {r} hr => List.mem_filterMap.2
      ⟨_, List.mem_filter.2 ⟨hr, by simp [Call.concerns]⟩, rfl⟩
  obtain ⟨front, back, rfl⟩ := List.append_of_mem hmem
  obtain ⟨d₁, d₂, hfront, hmade, -⟩ := h.split_at
  -- A ping in flight was issued under a registration that was entered before.
  have hping : ∀ {a : Act} {p : Ping}, Turn d₁ a d₂ → a.settled? = some p → p.probe = b →
      p.epoch ∈ epochs b (front ++ c :: back) := fun {a p} hturn hp hb => by
    obtain ⟨acts, hrun, -, hregs⟩ := turns_of_calls hfront
    have hsound : Shared.Sound acts d₁ :=
      Run.history (.new thresholds interval pingTimeout) (fun s hturn => s.turn hturn) hrun
    obtain ⟨before, since, r, _, hacts, he, -⟩ := hsound.inFlight p (hturn.inFlight hp)
    rw [← he]
    refine hentry (List.mem_append_left _ (hregs b r ?_))
    rw [hacts, hb]
    exact List.mem_append_right _ List.mem_cons_self
  cases hmade with
  | ping | cycle => trivial
  | @act _ a hturn hi =>
      cases a with
      | drew => trivial
      | did e =>
          cases e with
          | registered name r =>
              have hname : name = b := by simpa [Call.concerns] using hconcerns
              exact hentry (hname ▸ hmem)
          | unregistered | rescheduled => trivial
          | issued pings => exact absurd rfl (hi pings)
          | acknowledged p now | timedOut p =>
              have hprobe : p.probe = b := by simpa [Call.concerns] using hconcerns
              exact hping hturn rfl hprobe

end

/-- **Probes do not affect each other.**  Two runs of new monitors, whatever their settings, contain
the same calls that concern a name, at the same times and up to a choice of epochs; in everything
else they may differ.  Then they show the same of the name: what is registered, its status at any
time, its timeouts, and its row in the report, with the last round trip. -/
theorem unaffected {thresholds thresholds' : Thresholds}
    {interval interval' pingTimeout pingTimeout' : Span} {calls' : List Call}
    (h : Run Made (.new thresholds interval pingTimeout) calls d)
    (h' : Run Made (.new thresholds' interval' pingTimeout') calls' d')
    (hsame : calls'.filter (·.concerns b) =
      (calls.filter (·.concerns b)).map (·.rename ρ)) :
    d'.probe? b = (d.probe? b).map (·.rename ρ) ∧
      d'.flight.monitor.timeouts? b = d.flight.monitor.timeouts? b ∧
      ∀ now, d'.flight.monitor.status? b now = d.flight.monitor.status? b now ∧
        (d'.flight.monitor.report now).filter (·.name == b) =
          (d.flight.monitor.report now).filter (·.name == b) := by
  -- The second run chose its epochs apart, so renaming them loses nothing.
  have hepochs : epochs b calls' = (epochs b calls).map ρ := by
    rw [epochs, hsame, epochs, List.filterMap_map, List.map_filterMap]
    exact congrArg (List.filterMap · _) (funext Call.entered?_rename)
  have hinj : ∀ x y, x ∈ epochs b calls → y ∈ epochs b calls → ρ x = ρ y → x = y := by
    have hnodup := nodup_epochs h' b
    rw [hepochs] at hnodup
    exact fun x y hx hy => List.inj_on_of_nodup_map hnodup hx hy
  have hprobe : d'.probe? b = (d.probe? b).map (·.rename ρ) := by
    rw [probe?_of_calls h b, probe?_of_calls h' b, hsame]
    exact foldl_rename hinj (within_epochs h) (o := none) fun r hr => nomatch hr
  -- What is shown does not tell the epoch.
  have hview : ∀ {β : Type} (f : Probe → β),
      (d'.probe? b).map (fun r => f r.probe) = (d.probe? b).map fun r => f r.probe := fun f => by
    rw [hprobe, Option.map_map]
    rfl
  refine ⟨hprobe, hview (·.timeouts), fun now => ⟨hview (·.statusAt now), ?_⟩⟩
  have hrow : ∀ m : Monitor, (m.report now).filter (·.name == b) =
      ((m.probes.get? b).map fun r =>
        (⟨b, r.probe.statusAt now, r.probe.timeouts, r.probe.latency⟩ : Row)).toList := fun m => by
    rw [Monitor.report, List.filter_map]
    refine (congrArg (List.map _) (m.probes.filter_entries b)).trans ?_
    cases m.probes.get? b <;> rfl
  rw [hrow, hrow]
  exact congrArg Option.toList (hview fun p =>
    (⟨b, p.statusAt now, p.timeouts, p.latency⟩ : Row))

/-- A context that answers, beside one that is stuck and on its own. -/
theorem unaffected_stuck :
    let bounds : Thresholds := ⟨1, 3, 3⟩
    let r₀ : Registration := ⟨0, "main", .new bounds⟩
    let r₁ : Registration := ⟨1, "main", .new bounds⟩
    let calls : List Call :=
      [.act (.drew "db" r₀), .act (.did (.registered "db" r₀)), .act (.drew "ui" r₁),
        .act (.did (.registered "ui" r₁)), .cycle 0, .act (.did (.acknowledged ⟨"ui", 1, 0, 0⟩ 1))]
    let calls' : List Call :=
      [.act (.drew "ui" r₀), .act (.did (.registered "ui" r₀)), .cycle 0,
        .act (.did (.acknowledged ⟨"ui", 0, 0, 0⟩ 1))]
    ∃ d d', Run Made (.new bounds 4 2) calls d ∧ Run Made (.new bounds 9 5) calls' d' ∧
      d.flight.monitor.status? "db" 5 = some .unresponsive ∧
      d.flight.monitor.status? "ui" 5 = some .healthy ∧
      d'.flight.monitor.status? "ui" 5 = d.flight.monitor.status? "ui" 5 := by
  intro bounds r₀ r₁ calls calls'
  let d₀ : Shared := .new bounds 4 2
  let d₁ : Shared := ⟨{ d₀.flight with monitor := d₀.flight.monitor.draw }, [("db", r₀)]⟩
  let d₂ : Shared := ⟨{ d₁.flight with monitor := d₁.flight.monitor.enter "db" r₀ }, []⟩
  let d₃ : Shared := ⟨{ d₂.flight with monitor := d₂.flight.monitor.draw }, [("ui", r₁)]⟩
  let d₄ : Shared := ⟨{ d₃.flight with monitor := d₃.flight.monitor.enter "ui" r₁ }, []⟩
  let d₅ : Shared := ⟨⟨(d₄.flight.monitor.cycle 0).1, [⟨"db", 0, 0, 0⟩, ⟨"ui", 1, 0, 0⟩]⟩, []⟩
  let d₆ : Shared :=
    ⟨⟨d₅.flight.monitor.acknowledge ⟨"ui", 1, 0, 0⟩ 1, [⟨"db", 0, 0, 0⟩]⟩, []⟩
  let s₀ : Shared := .new bounds 9 5
  let s₁ : Shared := ⟨{ s₀.flight with monitor := s₀.flight.monitor.draw }, [("ui", r₀)]⟩
  let s₂ : Shared := ⟨{ s₁.flight with monitor := s₁.flight.monitor.enter "ui" r₀ }, []⟩
  let s₃ : Shared := ⟨⟨(s₂.flight.monitor.cycle 0).1, [⟨"ui", 0, 0, 0⟩]⟩, []⟩
  let s₄ : Shared := ⟨⟨s₃.flight.monitor.acknowledge ⟨"ui", 0, 0, 0⟩ 1, []⟩, []⟩
  have h : Run Made d₀ calls d₆ :=
    .more (.act (.draw d₀ "db" "main" bounds) fun _ h => nomatch h) <|
    .more (.act (@Turn.enter d₁ [] [] _ _ rfl) fun _ h => nomatch h) <|
    .more (.act (.draw d₂ "ui" "main" bounds) fun _ h => nomatch h) <|
    .more (.act (@Turn.enter d₃ [] [] _ _ rfl) fun _ h => nomatch h) <|
    .more (.cycle d₄ 0) <|
    .one (.act (.access d₅ (@Step.acknowledge d₅.flight [⟨"db", 0, 0, 0⟩] [] _ 1 rfl) rfl)
      fun _ h => nomatch h)
  have h' : Run Made s₀ calls' s₄ :=
    .more (.act (.draw s₀ "ui" "main" bounds) fun _ h => nomatch h) <|
    .more (.act (@Turn.enter s₁ [] [] _ _ rfl) fun _ h => nomatch h) <|
    .more (.cycle s₂ 0) <|
    .one (.act (.access s₃ (@Step.acknowledge s₃.flight [] [] _ 1 rfl) rfl) fun _ h => nomatch h)
  have hsame : calls'.filter (·.concerns "ui") =
      (calls.filter (·.concerns "ui")).map (·.rename fun _ => 0) := rfl
  exact ⟨d₆, s₄, h, h', by decide, by decide, ((unaffected h h' hsame).2.2 5).1⟩

end Vigil.Health
