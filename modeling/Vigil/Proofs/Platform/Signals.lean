import Vigil.Proofs.Platform.Frame

/-!
# Platform — the ways of signals

What happens on each signal, and which capture the fatal ones are recorded with (`Ways`).  An
interceptor of fatal signals keeps what happened on them when it was armed, and puts that back when
it is disarmed; but all of them share one target, and whoever is disarmed clears it.

* `Taking`, `taking_armAll`: of several that are armed the first keeps what happened before, and the
  others keep that the fault is recorded.
* `ways_disarmAll`: disarming puts back what each of them keeps, in the order in which they were
  armed.
* `ways_released`: so the last one decides what happens afterwards.
* `same_iff_survives`: exactly when that is what happened before.
-/

namespace Vigil

/-- What happens on each signal, and which capture fatal signals are recorded with. -/
structure Ways where
  disposition : Signal → Disposition
  target : Option Nat

/-- The ways of signals on a platform. -/
def Platform.ways (p : Platform) : Ways := ⟨p.disposition, p.target⟩

namespace Ways

/-- The same happens on the fatal signals, with the same capture. -/
structure Same (w w' : Ways) : Prop where
  disposition : ∀ s ∈ Signal.fatal, w'.disposition s = w.disposition s
  target : w'.target = w.target

/-- Fatal signals are recorded with a capture. -/
def take (c : Nat) (w : Ways) : Ways where
  disposition s := if s ∈ Signal.fatal then .captured else w.disposition s
  target := some c

/-- What happened on the fatal signals is put back, and they are recorded with no capture. -/
def putBack (d : Signal → Disposition) (w : Ways) : Ways where
  disposition s := if s ∈ Signal.fatal then d s else w.disposition s
  target := none

/-- So many interceptors of fatal signals may be armed and disarmed with nothing lost. -/
def Survives (w : Ways) (n : Nat) : Prop :=
  n = 0 ∨ w.target = none ∧ (n = 1 ∨ ∀ s ∈ Signal.fatal, w.disposition s = .captured)

/-- The ways after so many interceptors of fatal signals were armed. -/
def taken (c : Nat) (w : Ways) : Nat → Ways
  | 0 => w
  | _ + 1 => w.take c

/-- What each of them keeps. -/
def kept (c : Nat) (w : Ways) : Nat → List (Signal → Disposition)
  | 0 => []
  | n + 1 => w.disposition :: List.replicate n (w.take c).disposition

theorem take_take (c : Nat) (w : Ways) : (w.take c).take c = w.take c := by
  simp only [take, mk.injEq, and_true]
  funext s
  split <;> rfl

theorem taken_taken (c : Nat) (w : Ways) (n : Nat) : (w.take c).taken c n = w.take c := by
  cases n with
  | zero => rfl
  | succ => exact w.take_take c

theorem putBack_putBack (d d' : Signal → Disposition) (w : Ways) :
    (w.putBack d).putBack d' = w.putBack d' := by
  simp only [putBack, mk.injEq, and_true]
  funext s
  split <;> rfl

theorem foldl_replicate (d d' : Signal → Disposition) (w : Ways) (n : Nat) :
    (List.replicate n d').foldl (fun w d => w.putBack d) (w.putBack d) =
      w.putBack (if n = 0 then d else d') := by
  induction n generalizing d with
  | zero => rfl
  | succ n ih =>
      rw [List.replicate_succ, List.foldl_cons, putBack_putBack, ih]
      split <;> rfl

/-- The last one decides what happens. -/
theorem foldl_kept (w w' : Ways) (c : Nat) (n : Nat) :
    (w.kept c (n + 1)).foldl (fun w d => w.putBack d) w' =
      w'.putBack (if n = 0 then w.disposition else (w.take c).disposition) :=
  foldl_replicate ..

end Ways

namespace Platform
variable (p : Platform)

theorem Records.ways {p p' : Platform} (h : p.Records p') : p'.ways = p.ways := by
  rw [h]
  rfl

/-! ### Requests to the system -/

theorem redirect_of_accepts (h : p.answers.Accepts) (s : Signal) (d : Disposition) :
    p.redirect s d =
      ({ p.setDisposition s d with answers := p.answers.later }, .ok (p.disposition s)) := by
  rw [redirect, h.first]

theorem accepts_redirect (h : p.answers.Accepts) (s : Signal) (d : Disposition) :
    (p.redirect s d).1.answers.Accepts := by
  rw [redirect_of_accepts p h]
  exact h.later

theorem accepts_captureSignals (h : p.answers.Accepts) (l : List Signal) :
    (captureSignals l p).2.1.answers.Accepts ∧ (captureSignals l p).2.2 = none := by
  induction l generalizing p with
  | nil => exact ⟨h, rfl⟩
  | cons s l ih =>
      have hone := accepts_redirect p h s .captured
      rw [captureSignals]
      rw [redirect_of_accepts p h] at hone ⊢
      exact ih _ hone

theorem accepts_releaseSignals (h : p.answers.Accepts) (previous : List (Signal × Disposition)) :
    (p.releaseSignals previous).answers.Accepts :=
  List.foldlRecOn (motive := fun p : Platform => p.answers.Accepts) previous.reverse _ h
    fun p h d _ => accepts_redirect p h d.1 d.2

theorem takeSignals_of_accepts (h : p.answers.Accepts) (c : Nat) :
    (p.takeSignals c).2.1.answers.Accepts ∧ (p.takeSignals c).2.2 = .ok () := by
  obtain ⟨haccepts, hnone⟩ :=
    accepts_captureSignals { p with target := some c } h Signal.fatal
  rw [takeSignals]
  split
  next hcapture => rw [hcapture] at haccepts; exact ⟨haccepts, rfl⟩
  next hcapture => rw [hcapture] at hnone; cases hnone

/-- Signals are captured, up to the first that the system refuses. -/
theorem ways_captureSignals {l : List Signal} {kept : List (Signal × Disposition)} {q : Platform}
    {refusal : Option Error} (hl : l.Nodup) (h : captureSignals l p = (kept, q, refusal)) :
    ∃ front, front <+: l ∧ (refusal = none → front = l) ∧
      kept = front.map (fun s => (s, p.disposition s)) ∧
      q.ways = ⟨fun s => if s ∈ front then .captured else p.disposition s, p.target⟩ := by
  induction l generalizing p kept q with
  | nil =>
      cases h
      exact ⟨[], List.prefix_refl _, fun _ => rfl, rfl, by simp [ways]⟩
  | cons s₀ l ih =>
      obtain ⟨hs₀, hl⟩ := List.nodup_cons.1 hl
      rw [captureSignals] at h
      rcases p.redirect_cases s₀ .captured with ⟨reason, hone⟩ | hone
      · rw [hone] at h
        cases h
        exact ⟨[], List.nil_prefix, fun hr => (by cases hr), rfl, by simp [ways]⟩
      · rcases hrest : captureSignals l
            { p.setDisposition s₀ .captured with answers := p.answers.later }
          with ⟨kept', q', refusal'⟩
        simp only [hone, hrest] at h
        cases h
        obtain ⟨front, hfront, hall, hkept, hways⟩ := ih _ hl hrest
        -- The first signal is not asked for again.
        have hothers : ∀ s ∈ front, s ≠ s₀ := fun s hs heq => hs₀ (heq ▸ hfront.subset hs)
        refine ⟨s₀ :: front, List.cons_prefix_cons.2 ⟨rfl, hfront⟩,
          fun hr => congrArg (s₀ :: ·) (hall hr), ?_, ?_⟩
        · rw [hkept, List.map_cons]
          refine congrArg _ (List.map_congr_left fun s hs => ?_)
          simp only [setDisposition, if_neg (hothers s hs)]
        · rw [hways, Ways.mk.injEq]
          refine ⟨funext fun s => ?_, rfl⟩
          by_cases hs : s ∈ front
          · simp [hs]
          · by_cases heq : s = s₀ <;> simp [setDisposition, hs, heq]

/-- What happened on signals before is put back, if the system does not refuse that. -/
theorem ways_releaseSignals (h : p.answers.Accepts) (l : List Signal) (d : Signal → Disposition) :
    (p.releaseSignals (l.map fun s => (s, d s))).ways =
      ⟨fun s => if s ∈ l then d s else p.disposition s, none⟩ := by
  have hall : ∀ (l : List Signal) (p : Platform), p.answers.Accepts →
      ((l.map fun s => (s, d s)).foldl restore p).disposition =
        fun s => if s ∈ l then d s else p.disposition s := by
    intro l
    induction l with
    | nil => exact fun p _ => by simp
    | cons s₀ l ih =>
        intro p h
        have hrestore : p.restore (s₀, d s₀) =
            { p.setDisposition s₀ (d s₀) with answers := p.answers.later } :=
          congrArg Prod.fst (redirect_of_accepts p h s₀ (d s₀))
        refine (ih (p.restore (s₀, d s₀)) (accepts_redirect p h s₀ _)).trans (funext fun s => ?_)
        rw [hrestore]
        by_cases hs : s ∈ l
        · simp [hs]
        · by_cases heq : s = s₀ <;> simp [setDisposition, hs, heq]
  have hreverse := hall l.reverse p h
  rw [List.map_reverse] at hreverse
  simp only [List.mem_reverse] at hreverse
  exact congrArg (fun d => Ways.mk d none) hreverse

end Platform

namespace Interceptor
variable {i i' : Interceptor} {is is' : List Interceptor} {p p' : Platform} {w w' : Ways}
  {c n : Nat}

/-- Whether it takes over fatal signals. -/
def takesSignals : Interceptor → Bool
  | .fatalSignals _ => true
  | _ => false

/-- What it keeps to put back. -/
def kept? : Interceptor → Option (List (Signal × Disposition))
  | .fatalSignals previous => some previous
  | _ => none

/-- It keeps nothing to put back on fatal signals, since it is not armed. -/
def Released (i : Interceptor) : Prop := i.kept? = none ∨ i.kept? = some []

/-- What is kept about the fatal signals, as a list. -/
def saved (d : Signal → Disposition) : List (Signal × Disposition) :=
  Signal.fatal.map fun s => (s, d s)

/-! ### Arming -/

/-- Interceptors were armed for a capture, `n` of them ones that take over fatal signals. -/
structure Taking (c n : Nat) (w w' : Ways) (is' : List Interceptor) : Prop where
  ways : w' = w.taken c n
  kept : is'.filterMap kept? = (w.kept c n).map saved

namespace Taking

theorem nil (c : Nat) (w : Ways) : Taking c 0 w w [] := ⟨rfl, rfl⟩

/-- One that does not take over fatal signals does not matter. -/
theorem skip (h : Taking c n w w' is') (hi : i'.kept? = none) : Taking c n w w' (i' :: is') :=
  ⟨h.ways, by rw [List.filterMap_cons, hi]; exact h.kept⟩

/-- The first one keeps what happened before; behind it all of them keep the same. -/
theorem cons (h : Taking c n (w.take c) w' is') (hi : i'.kept? = some (saved w.disposition)) :
    Taking c (n + 1) w w' (i' :: is') where
  ways := h.ways.trans (w.taken_taken c n)
  kept := by
    rw [List.filterMap_cons, hi, h.kept, Ways.kept, List.map_cons]
    cases n with
    | zero => rfl
    | succ n => rw [Ways.kept, Ways.take_take]; rfl

end Taking

/-- One that takes over fatal signals is armed. -/
theorem arm_takes (hr : i.Released) (ht : i.takesSignals = true)
    (h : i.arm c p = (i', p', .ok ())) :
    p'.ways = p.ways.take c ∧ i'.kept? = some (saved p.disposition) := by
  cases i with
  | panicHook | counting => cases ht
  | fatalSignals previous =>
      obtain rfl : previous = [] := by
        rcases hr with hr | hr
        · cases hr
        · exact Option.some.inj hr
      simp only [arm, Platform.takeSignals] at h
      split at h
      next hcapture =>
        cases h
        obtain ⟨front, -, hall, rfl, hways⟩ := Platform.ways_captureSignals _ (by decide) hcapture
        rw [hall rfl] at hways
        exact ⟨hways, by rw [hall rfl]; rfl⟩
      next => cases h

/-- Any other one leaves the ways of signals alone. -/
theorem arm_apart (ht : i.takesSignals = false) (h : i.arm c p = (i', p', .ok ())) :
    p'.ways = p.ways ∧ i'.kept? = none := by
  cases i with
  | fatalSignals => cases ht
  | panicHook o =>
      simp only [arm, PanicObserver.arm] at h
      split at h <;> (cases h; exact ⟨rfl, rfl⟩)
  | counting =>
      obtain ⟨-, rfl, rfl⟩ := counting_armed h
      exact ⟨rfl, rfl⟩

/-- Of several that are armed the first keeps what happened before. -/
theorem taking_armAll {k : Nat} (hr : ∀ i ∈ is, i.Released)
    (h : armAll c is p = (is', p', k, none)) :
    Taking c (is.countP takesSignals) p.ways p'.ways is' := by
  induction is generalizing p is' k with
  | nil =>
      cases h
      exact .nil c _
  | cons i is ih =>
      rw [armAll] at h
      split at h
      next => cases h
      next i' q hi =>
        rcases hrest : armAll c is q with ⟨rest, q', n, refusal⟩
        rw [hrest] at h
        cases h
        have htail := ih (fun j hj => hr j (List.mem_cons_of_mem _ hj)) hrest
        cases ht : i.takesSignals with
        | false =>
            obtain ⟨hways, hkept⟩ := arm_apart ht hi
            rw [List.countP_cons_of_neg (by simp [ht]), ← hways]
            exact htail.skip hkept
        | true =>
            obtain ⟨hways, hkept⟩ := arm_takes (hr i List.mem_cons_self) ht hi
            rw [List.countP_cons_of_pos ht]
            rw [hways] at htail
            exact htail.cons hkept

/-! ### Disarming -/

/-- What is kept is put back. -/
theorem disarm_kept {d : Signal → Disposition} (ha : p.answers.Accepts)
    (h : i.kept? = some (saved d)) : (i.disarm p).2.ways = p.ways.putBack d := by
  cases i with
  | panicHook | counting => cases h
  | fatalSignals previous =>
      obtain rfl := Option.some.inj h
      exact p.ways_releaseSignals ha Signal.fatal d

/-- One that keeps nothing leaves the ways of signals alone. -/
theorem disarm_apart (h : i.kept? = none) (p : Platform) : (i.disarm p).2.ways = p.ways := by
  cases i with
  | fatalSignals => cases h
  | panicHook o =>
      simp only [disarm, PanicObserver.disarm]
      split <;> rfl
  | counting => rfl

theorem accepts_disarm (ha : p.answers.Accepts) (i : Interceptor) :
    (i.disarm p).2.answers.Accepts := by
  cases i with
  | panicHook o =>
      simp only [disarm, PanicObserver.disarm]
      split <;> exact ha
  | counting => exact ha
  | fatalSignals previous => exact p.accepts_releaseSignals ha previous

/-- Interceptors that are disarmed put back what they keep, one after the other. -/
theorem ways_disarmAll {ds : List (Signal → Disposition)} (ha : p.answers.Accepts)
    (h : is.filterMap kept? = ds.map saved) :
    (disarmAll is p).2.ways = ds.foldl (fun w d => w.putBack d) p.ways := by
  induction is generalizing ds p with
  | nil =>
      rw [List.map_eq_nil_iff.1 h.symm]
      rfl
  | cons i is ih =>
      rw [List.filterMap_cons] at h
      change (disarmAll is (i.disarm p).2).2.ways = _
      cases hi : i.kept? with
      | none =>
          rw [hi] at h
          rw [ih (accepts_disarm ha i) h, disarm_apart hi]
      | some previous =>
          rw [hi] at h
          obtain ⟨d, ds, rfl, rfl, hrest⟩ := List.map_eq_cons_iff.1 h.symm
          rw [ih (accepts_disarm ha i) hrest.symm, disarm_kept ha hi, List.foldl_cons]

theorem released_disarm (i : Interceptor) (p : Platform) : (i.disarm p).1.Released := by
  cases i with
  | panicHook | counting => exact Or.inl rfl
  | fatalSignals => exact Or.inr rfl

/-- No interceptor that is disarmed keeps anything. -/
theorem released_disarmAll (is : List Interceptor) (p : Platform) :
    ∀ i ∈ (disarmAll is p).1, i.Released := by
  induction is generalizing p with
  | nil => exact nofun
  | cons i is ih =>
      intro j hj
      rcases List.mem_cons.1 hj with rfl | hj
      · exact released_disarm i p
      · exact ih _ j hj

/-! ### Arming and disarming -/

/-- After interceptors were armed and disarmed the last one has decided what happens. -/
theorem ways_released (h : Taking c (n + 1) w w' is) (ha : p.answers.Accepts) :
    (disarmAll is p).2.ways =
      p.ways.putBack (if n = 0 then w.disposition else (w.take c).disposition) := by
  rw [ways_disarmAll ha h.kept, Ways.foldl_kept]

/-- Exactly when the ways of signals are as before then. -/
theorem same_iff_survives (h : Taking c n w w' is) (hp : w'.Same p.ways)
    (ha : p.answers.Accepts) :
    w.Same (disarmAll is p).2.ways ↔ w.Survives n := by
  cases n with
  | zero =>
      rw [ways_disarmAll ha h.kept]
      rw [h.ways] at hp
      exact ⟨fun _ => Or.inl rfl, fun _ => hp⟩
  | succ n =>
      rw [ways_released h ha]
      constructor
      · intro hs
        refine Or.inr ⟨hs.target.symm, (Nat.eq_zero_or_pos n).imp (congrArg (· + 1)) ?_⟩
        intro hn s hs'
        have hd := hs.disposition s hs'
        rw [if_neg (Nat.ne_of_gt hn)] at hd
        simpa [Ways.putBack, Ways.take, hs', eq_comm] using hd
      · rintro (hn | ⟨ht, hn⟩)
        · cases hn
        · refine ⟨fun s hs => ?_, ht.symm⟩
          rcases hn with hn | hn
          · cases hn
            simp [Ways.putBack, hs]
          · have hcaptured := hn s hs
            simp only [Ways.putBack, if_pos hs]
            split
            · rfl
            · simp [Ways.take, hs, hcaptured]

end Interceptor
end Vigil
