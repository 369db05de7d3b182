import Mathlib.Data.List.Nodup
import Vigil.Proofs.Task.Lifecycle
import Vigil.Proofs.Task.Statistics

/-!
# Task — snapshots

A snapshot meets the tasks of a registry in whichever order, counts them, and sorts those that are
pending.  What it says does not depend on that order: no two tasks have the same id, and of two
orphans with different ids exactly one comes before the other.

* `nodup_ids`: the tasks of a registry stand under different ids, their own.
* `Orphan.eq_of_perm`: there is one order of orphans with different ids.
* `ofRecords_of_perm`: snapshots of the same tasks are the same.

**Snapshots** (`snapshot_exact`): what a snapshot of a registry says about its tasks.
-/

namespace Vigil.Task

/-! ### The order of orphans -/

namespace Orphan
variable {a b c : Orphan} {os os' : List Orphan}

/-- An orphan comes strictly before another: it is older, or as old and has the smaller id. -/
def Precedes (a b : Orphan) : Prop := b.age < a.age ∨ a.age = b.age ∧ a.id < b.id

theorem before_iff : a.before b = true ↔ b.age < a.age ∨ a.age = b.age ∧ a.id ≤ b.id := by
  rw [before, Bool.or_eq_true, Bool.and_eq_true, decide_eq_true_eq, decide_eq_true_eq,
    decide_eq_true_eq]

theorem before_trans (hab : a.before b = true) (hbc : b.before c = true) :
    a.before c = true := by
  rw [before_iff] at hab hbc ⊢
  rcases hab with hab | ⟨hab, hid⟩ <;> rcases hbc with hbc | ⟨hbc, hid'⟩
  · exact Or.inl (Nat.lt_trans hbc hab)
  · exact Or.inl (hbc ▸ hab)
  · exact Or.inl (hab ▸ hbc)
  · exact Or.inr ⟨hab.trans hbc, String.le_trans hid hid'⟩

theorem before_total (a b : Orphan) : (a.before b || b.before a) = true := by
  rw [Bool.or_eq_true, before_iff, before_iff]
  rcases Nat.lt_trichotomy a.age b.age with hlt | heq | hlt
  · exact Or.inr (Or.inl hlt)
  · exact (String.le_total a.id b.id).imp (fun hid => Or.inr ⟨heq, hid⟩)
      fun hid => Or.inr ⟨heq.symm, hid⟩
  · exact Or.inl (Or.inl hlt)

/-- Only orphans with one id can each come before the other. -/
theorem id_eq_of_before (hab : a.before b = true) (hba : b.before a = true) : a.id = b.id := by
  rw [before_iff] at hab hba
  rcases hab with hab | ⟨hab, hid⟩ <;> rcases hba with hba | ⟨hba, hid'⟩
  · exact absurd hba (Nat.lt_asymm hab)
  · exact absurd hba (Nat.ne_of_lt hab)
  · exact absurd hab (Nat.ne_of_lt hba)
  · exact String.le_antisymm hid hid'

theorem precedes_of_before (hab : a.before b = true) (hne : a.id ≠ b.id) : a.Precedes b := by
  refine (before_iff.1 hab).imp_right fun ⟨hage, hid⟩ => ⟨hage, ?_⟩
  exact String.not_le.1 fun hle => hne (String.le_antisymm hid hle)

/-- Orphans with different ids can be put in order in one way only. -/
theorem eq_of_perm (hperm : os.Perm os') (hids : (os.map (·.id)).Nodup)
    (hs : os.Pairwise fun a b => a.before b = true)
    (hs' : os'.Pairwise fun a b => a.before b = true) : os = os' := by
  refine List.Perm.eq_of_pairwise (fun a b ha hb hab hba => ?_) hs hs' hperm
  exact List.inj_on_of_nodup_map hids ha (hperm.mem_iff.2 hb) (id_eq_of_before hab hba)

end Orphan

/-! ### Snapshots of the same tasks -/

namespace Snapshot
variable {met records : List Record}

theorem sorted_orphans (records : List Record) (now : Tick) :
    (ofRecords records now).orphans.Pairwise fun a b => a.before b = true :=
  @List.pairwise_mergeSort _ Orphan.before (fun _ _ _ => Orphan.before_trans)
    Orphan.before_total _

/-- The orphans have the ids of the tasks that they are. -/
theorem nodup_orphans (hids : (records.map (·.id)).Nodup) (now : Tick) :
    ((ofRecords records now).orphans.map (·.id)).Nodup := by
  have hmap := (orphans_ofRecords records now).map (·.id)
  rw [List.map_map] at hmap
  exact hmap.nodup_iff.2 (hids.sublist (List.filter_sublist.map _))

/-- Whoever sorts the orphans of a snapshot comes to the same list. -/
theorem orphans_unique (hids : (records.map (·.id)).Nodup) (now : Tick) {os : List Orphan}
    (hperm : os.Perm ((records.filter (·.isOrphaned)).map (.ofRecord now)))
    (hs : os.Pairwise fun a b => a.before b = true) : os = (ofRecords records now).orphans := by
  have hall := (orphans_ofRecords records now).trans hperm.symm
  exact (Orphan.eq_of_perm hall (nodup_orphans hids now) (sorted_orphans records now) hs).symm

/-- It makes no difference in which order the tasks are met. -/
theorem ofRecords_of_perm (h : met.Perm records) (hids : (records.map (·.id)).Nodup)
    (now : Tick) : ofRecords met now = ofRecords records now := by
  have horphans : (ofRecords met now).orphans = (ofRecords records now).orphans :=
    orphans_unique hids now ((orphans_ofRecords met now).trans ((h.filter _).map _))
      (sorted_orphans met now)
  have hcounts : ofRecords met now =
      { ofRecords records now with orphans := (ofRecords met now).orphans } := by
    unfold ofRecords
    simp only [h.length_eq, h.countP_eq]
  rw [hcounts, horphans]

/-- An orphan of a snapshot is a pending task as it stands then. -/
theorem mem_orphans {now : Tick} {o : Orphan} :
    o ∈ (ofRecords records now).orphans ↔
      ∃ x ∈ records, x.outcome = .pending ∧ Orphan.ofRecord now x = o := by
  rw [(orphans_ofRecords records now).mem_iff, List.mem_map]
  simp only [List.mem_filter, Record.isOrphaned, decide_eq_true_eq, and_assoc]

end Snapshot

/-! ### The tasks of a registry -/

section
variable {s : System}

/-- The tasks of a registry are those under its ids. -/
theorem Registry.mem_records {r : Registry} {x : Record} :
    x ∈ r.records ↔ ∃ id, r.get? id = some x := by
  simp only [records, Table.values, List.mem_map, Prod.exists, exists_eq_right,
    Table.mem_entries_iff]
  rfl

/-- Every task stands under its own id. -/
theorem System.Sound.mem_records (hs : s.Sound) {x : Record} :
    x ∈ s.registry.records ↔ s.registry.get? x.id = some x := by
  rw [Registry.mem_records]
  refine ⟨fun ⟨id, hx⟩ => ?_, fun hx => ⟨x.id, hx⟩⟩
  rw [(hs id x hx).own_id, hx]

/-- No two tasks have the same id. -/
theorem System.Sound.nodup_ids (hs : s.Sound) : (s.registry.records.map (·.id)).Nodup := by
  have hkeys : s.registry.records.map (·.id) = s.registry.tasks.keys := by
    rw [Registry.records, Table.values, Table.keys, List.map_map]
    refine List.map_congr_left fun ⟨id, x⟩ he => ?_
    exact (hs id x (Table.mem_entries_iff.1 he)).own_id
  rw [hkeys]
  refine List.Pairwise.imp (fun hlt heq => ?_) (List.pairwise_map.2 s.registry.tasks.sorted)
  exact String.lt_irrefl _ (heq ▸ hlt)

end

/-! ### The orphans of a registry -/

/-- Of two tasks that were started when the clock was read, the one that is not younger was not
started later. -/
theorem started_of_age_le {start start' t : Nat} (h : t - start' ≤ t - start) :
    start ≤ start' ∨ t < start := by
  omega

namespace System.Sound
variable {s : System} {t : Tick}

/-- The orphans are the pending tasks, with their names and ages. -/
theorem mem_orphans (hs : s.Sound) {o : Orphan} :
    o ∈ (s.registry.snapshot t).orphans ↔ ∃ x, s.registry.get? o.id = some x ∧
      x.outcome = .pending ∧ o = ⟨o.id, x.name, t - x.startedAt⟩ := by
  refine Snapshot.mem_orphans.trans ⟨?_, ?_⟩
  · rintro ⟨x, hx, hp, rfl⟩
    exact ⟨x, hs.mem_records.1 hx, hp, rfl⟩
  · rintro ⟨x, hx, hp, ho⟩
    refine ⟨x, Registry.mem_records.2 ⟨o.id, hx⟩, hp, ?_⟩
    rw [ho, Orphan.ofRecord, (hs o.id x hx).own_id]
    rfl

theorem hasOrphan_iff (hs : s.Sound) (id : String) :
    (s.registry.snapshot t).hasOrphan id = true ↔
      ∃ x, s.registry.get? id = some x ∧ x.outcome = .pending := by
  rw [Snapshot.hasOrphan, List.any_eq_true]
  constructor
  · rintro ⟨o, ho, hid⟩
    obtain ⟨x, hx, hp, -⟩ := hs.mem_orphans.1 ho
    exact ⟨x, beq_iff_eq.1 hid ▸ hx, hp⟩
  · rintro ⟨x, hx, hp⟩
    exact ⟨⟨id, x.name, t - x.startedAt⟩, hs.mem_orphans.2 ⟨x, hx, hp, rfl⟩, beq_self_eq_true id⟩

/-- An orphan that is not younger was started earlier, or after the clock was read. -/
theorem started_le {a b : Orphan} {x y : Record} (hs : s.Sound)
    (ha : a ∈ (s.registry.snapshot t).orphans) (hb : b ∈ (s.registry.snapshot t).orphans)
    (hx : s.registry.get? a.id = some x) (hy : s.registry.get? b.id = some y)
    (hle : b.age ≤ a.age) : x.startedAt ≤ y.startedAt ∨ t < x.startedAt := by
  obtain ⟨_, hx', -, hage⟩ := hs.mem_orphans.1 ha
  obtain ⟨_, hy', -, hage'⟩ := hs.mem_orphans.1 hb
  cases hx.symm.trans hx'
  cases hy.symm.trans hy'
  rw [hage, hage'] at hle
  exact started_of_age_le hle

/-- The orphans stand in strict order. -/
theorem precedes_orphans (hs : s.Sound) :
    (s.registry.snapshot t).orphans.Pairwise Orphan.Precedes := by
  have hsorted := Snapshot.sorted_orphans s.registry.records t
  have hids := List.pairwise_map.1 (Snapshot.nodup_orphans hs.nodup_ids t)
  refine (hsorted.and hids).imp fun hab => ?_
  exact Orphan.precedes_of_before hab.1 hab.2

end System.Sound

/-- **Snapshots.**  Take any registry that a run leads to, and the reading `t` of a clock.
* The snapshot at `t` is the same in whichever order the tasks are met, and in whichever way the
  orphans are put in order.
* It counts all tasks, each under one outcome.
* It has one orphan for each pending task, with the name of the task and the time since its start;
  so exactly the ids of pending tasks are those of orphans, and the orphans are as many as it says.
* An older orphan comes before a younger one, and of two of the same age the one with the smaller
  id.  So the orphans come in the order of their starts; this can only fail for tasks that were
  started after the clock was read, and there are none if nothing has happened since then. -/
theorem snapshot_exact {retention sweepInterval : Span} {now : Tick} {es : List Event} {s : System}
    (h : Run Step (.new retention sweepInterval now) es s) (t : Tick) :
    let r := s.registry
    let snap := r.snapshot t
    (∀ met : List Record, met.Perm r.records → Snapshot.ofRecords met t = snap ∧
      ∀ os : List Orphan, os.Perm ((met.filter (·.isOrphaned)).map (.ofRecord t)) →
        os.Pairwise (fun a b => a.before b = true) → os = snap.orphans) ∧
    (snap.total = r.tasks.size ∧
      snap.total = snap.completed + snap.failed + snap.cancelled + snap.orphaned) ∧
    ((snap.orphans.map (·.id)).Nodup ∧
      (∀ o, o ∈ snap.orphans ↔
        ∃ x, r.get? o.id = some x ∧ x.outcome = .pending ∧ o = ⟨o.id, x.name, t - x.startedAt⟩) ∧
      (∀ id, snap.hasOrphan id = true ↔ ∃ x, r.get? id = some x ∧ x.outcome = .pending) ∧
      snap.orphans.length = snap.orphaned) ∧
    snap.orphans.Pairwise (fun a b => a.Precedes b ∧
      ∀ x y, r.get? a.id = some x → r.get? b.id = some y →
        x.startedAt ≤ y.startedAt ∨ t < x.startedAt) ∧
    (s.now ≤ t → ∀ id x, r.get? id = some x → x.startedAt ≤ t) := by
  intro r snap
  have hsound : s.Sound := h.preserves (fun hst => hst.sound) (System.sound_new _ _ _)
  have hids := hsound.nodup_ids
  refine ⟨fun met hmet => ⟨Snapshot.ofRecords_of_perm hmet hids t, fun os hos hsorted => ?_⟩,
    ⟨List.length_map _, Snapshot.total_ofRecords _ _⟩,
    ⟨Snapshot.nodup_orphans hids t, fun _ => hsound.mem_orphans, hsound.hasOrphan_iff,
      Snapshot.length_orphans_ofRecords _ _⟩, ?_, fun hle id x hx => ?_⟩
  · exact Snapshot.orphans_unique hids t (hos.trans ((hmet.filter _).map _)) hsorted
  · refine hsound.precedes_orphans.imp_of_mem fun {a b} ha hb hprecedes => ?_
    have hle : b.age ≤ a.age := hprecedes.elim Nat.le_of_lt fun h => Nat.le_of_eq h.1.symm
    exact ⟨hprecedes, fun x y hx hy => hsound.started_le ha hb hx hy hle⟩
  · exact Nat.le_trans (hsound id x hx).started_le hle

/-- Two tasks of one age and a younger one, met from the last to the first. -/
theorem snapshot_exact_tie :
    ∃ s, Run Step (.new 300 60 0) [⟨1, .started "b" "load"⟩, ⟨1, .started "a" "save"⟩,
        ⟨2, .started "c" "sync"⟩] s ∧
      (Snapshot.ofRecords s.registry.records.reverse 5).orphans =
        [⟨"a", "save", 4⟩, ⟨"b", "load", 4⟩, ⟨"c", "sync", 3⟩] := by
  let s₁ : System := ⟨((Registry.new 300 60 0).start "b" "load" 1).1, [], 1⟩
  let s₂ : System := ⟨(s₁.registry.start "a" "save" 1).1, [], 1⟩
  have h₁ : Step (.new 300 60 0) ⟨1, .started "b" "load"⟩ s₁ :=
    (Section.start _ 1 "b" "load").step (Nat.zero_le 1) (Nat.le_refl 1)
  have h₂ : Step s₁ ⟨1, .started "a" "save"⟩ s₂ :=
    (Section.start _ 1 "a" "save").step (Nat.le_refl 1) (Nat.le_refl 1)
  have h₃ : Step s₂ ⟨2, .started "c" "sync"⟩ _ :=
    (Section.start _ 2 "c" "sync").step (by decide : 1 ≤ 2) (Nat.le_refl 2)
  have hrun := Run.more h₁ (.more h₂ (.one h₃))
  refine ⟨_, hrun, ?_⟩
  obtain ⟨hsame, hunique⟩ := (snapshot_exact hrun 5).1 _ (List.reverse_perm _)
  rw [hsame]
  exact (hunique _ (by decide) (by decide)).symm

end Vigil.Task
