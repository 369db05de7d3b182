import Mathlib.Data.List.Basic
import Vigil.Platform.Basic
import Vigil.Proofs.Number.Digits
import Vigil.Task.Snapshot

/-!
# Task — statistics and snapshot

The section of a crash report about tasks and a snapshot of the registry are made by two walks of
their own over the tasks, and the section may meet them in any order.  The section is nevertheless
written in the terms of the snapshot: `Snapshot.counts` is its front, and `Orphan.line` the line
of an orphan.

* `Snapshot.total_ofRecords`: every task is counted under one outcome.
* `flatten_ofRecords`: the section for tasks in some order, from their snapshot.
* `listed_iff`: when the tasks are listed, told from the text alone.

**The section agrees with the snapshot** (`statistics_of_snapshot`).
-/

namespace Vigil.Task
open Number

/-- The line of an orphan, its age in tenths of a second. -/
def Orphan.line (o : Orphan) : List Char :=
  "  - [".toList ++ o.id.toList ++ "] ".toList ++ o.name.toList ++ " (age: ".toList ++
    (Binary64.seconds o.age).toFixed 1 ++ "s)\n".toList

namespace Snapshot

/-- The counts of a snapshot as text. -/
def counts (s : Snapshot) : List Char :=
  "Task Statistics:\n  Total: ".toList ++ decimal s.total ++ "\n  Completed: ".toList ++
    decimal s.completed ++ "\n  Failed: ".toList ++ decimal s.failed ++
    "\n  Cancelled: ".toList ++ decimal s.cancelled ++ "\n  Orphaned: ".toList ++
    decimal s.orphaned ++ ['\n']

/-- What stands above the lines of the orphans, behind an empty line. -/
def heading : List Char := "Orphaned Tasks:\n".toList

/-! ### The snapshot -/

/-- Every task is counted under exactly one outcome. -/
theorem total_ofRecords (records : List Record) (now : Tick) :
    let s := ofRecords records now
    s.total = s.completed + s.failed + s.cancelled + s.orphaned := by
  simp only [ofRecords]
  induction records with
  | nil => rfl
  | cons t records ih =>
      simp only [List.countP_cons, List.length_cons]
      cases t.outcome <;> simp only [reduceIte, Bool.false_eq_true] <;> omega

/-- The orphans of a snapshot, up to order. -/
theorem orphans_ofRecords (records : List Record) (now : Tick) :
    (ofRecords records now).orphans.Perm
      ((records.filter (·.isOrphaned)).map (.ofRecord now)) :=
  List.mergeSort_perm _ _

theorem length_orphans_ofRecords (records : List Record) (now : Tick) :
    (ofRecords records now).orphans.length = (ofRecords records now).orphaned := by
  rw [(orphans_ofRecords records now).length_eq, List.length_map, orphaned_ofRecords]

/-- The counts do not depend on the order in which the tasks are met. -/
theorem counts_perm {met records : List Record} (h : met.Perm records) (now : Tick) :
    (ofRecords met now).counts = (ofRecords records now).counts := by
  unfold counts
  simp only [ofRecords, h.length_eq, h.countP_eq]

end Snapshot

namespace Statistics

/-! ### The section -/

/-- The line of a task is that of the orphan it is. -/
theorem flatten_orphanLine (now : Tick) (t : Record) :
    (orphanLine now t).flatten = (Orphan.ofRecord now t).line := by
  unfold orphanLine Orphan.line
  simp only [Orphan.ofRecord, List.flatten_cons, List.flatten_nil, List.append_nil,
    List.append_assoc]

theorem flatten_orphanLines (now : Tick) (ts : List Record) :
    (ts.flatMap (orphanLine now)).flatten =
      (ts.map fun t => (Orphan.ofRecord now t).line).flatten := by
  induction ts with
  | nil => rfl
  | cons t ts ih =>
      rw [List.flatMap_cons, List.flatten_append, flatten_orphanLine, ih, List.map_cons,
        List.flatten_cons]

/-- The section for tasks in some order, from their snapshot: the counts, and the lines of the
orphans in that order. -/
theorem flatten_ofRecords (records : List Record) (now : Tick) :
    let s := Snapshot.ofRecords records now
    (ofRecords records now).flatten = s.counts ++
      if s.orphaned = 0 then []
      else '\n' :: Snapshot.heading ++
        ((records.filter (·.isOrphaned)).map fun t => (Orphan.ofRecord now t).line).flatten := by
  intro s
  have hcounts : (["Task Statistics:\n".toList] ++ countLine "Total" s.total ++
      countLine "Completed" s.completed ++ countLine "Failed" s.failed ++
      countLine "Cancelled" s.cancelled ++
      countLine "Orphaned" (records.filter (·.isOrphaned)).length).flatten = s.counts := by
    rw [← Snapshot.orphaned_ofRecords records now]
    unfold countLine Snapshot.counts
    simp only [List.flatten_append, List.flatten_cons, List.flatten_nil, List.append_nil,
      List.append_assoc]
    rfl
  have horphaned : (records.filter (·.isOrphaned)).isEmpty = true ↔ s.orphaned = 0 := by
    rw [List.isEmpty_iff, ← List.length_eq_zero_iff, ← Snapshot.orphaned_ofRecords records now]
  rw [ofRecords, List.flatten_append]
  refine congr (congrArg _ hcounts) ?_
  split
  next h => rw [if_pos (horphaned.1 h)]; rfl
  next h =>
    rw [if_neg (mt horphaned.2 h), ← flatten_orphanLines]
    rfl

/-! ### Whether the orphans are listed -/

/-- The counts do not hold the heading: their only `k` has three characters before it. -/
theorem not_heading_infix_counts (s : Snapshot) : ¬ Snapshot.heading <:+: s.counts := by
  rintro ⟨before, after, h⟩
  have hdigits : ∀ n, 'k' ∉ decimal n := fun n hk =>
    absurd (isDigit_of_mem_decimal hk) (by decide)
  obtain ⟨rest, hrest, hcounts⟩ : ∃ rest, 'k' ∉ rest ∧ s.counts = "Tas".toList ++ 'k' :: rest := by
    refine ⟨" Statistics:\n  Total: ".toList ++ decimal s.total ++ "\n  Completed: ".toList ++
      decimal s.completed ++ "\n  Failed: ".toList ++ decimal s.failed ++
      "\n  Cancelled: ".toList ++ decimal s.cancelled ++ "\n  Orphaned: ".toList ++
      decimal s.orphaned ++ ['\n'], ?_, ?_⟩
    · simp only [List.mem_append, not_or, hdigits, not_false_eq_true, and_true]
      decide
    · unfold Snapshot.counts
      simp only [List.append_assoc]
      rfl
  have hheading : Snapshot.heading = "Orphaned Tas".toList ++ 'k' :: "s:\n".toList := by decide
  rw [hcounts, hheading] at h
  have hsplit : "Tas".toList ++ 'k' :: rest =
      (before ++ "Orphaned Tas".toList) ++ 'k' :: ("s:\n".toList ++ after) := by
    rw [← h]
    simp only [List.append_assoc, List.cons_append]
  obtain ⟨hfront, -, -⟩ := (List.append_cons_inj_of_notMem (by decide) hrest).1 hsplit
  have hlength := congrArg List.length hfront
  rw [List.length_append] at hlength
  have : "Tas".toList.length = 3 := rfl
  have : "Orphaned Tas".toList.length = 12 := rfl
  omega

theorem heading_listed (counts lines : List Char) :
    Snapshot.heading <:+: counts ++ ('\n' :: Snapshot.heading ++ lines) :=
  ⟨counts ++ ['\n'], lines, by simp⟩

/-- Whether the orphans are listed shows in the text alone. -/
theorem listed_iff (records : List Record) (now : Tick) :
    Snapshot.heading <:+: (ofRecords records now).flatten ↔
      0 < (Snapshot.ofRecords records now).orphaned := by
  rw [flatten_ofRecords, Nat.pos_iff_ne_zero]
  split
  next h =>
    rw [List.append_nil]
    exact iff_of_false (not_heading_infix_counts _) (not_not_intro h)
  next h => exact iff_of_true (heading_listed _ _) h

/-- **The section agrees with the snapshot.**  A registry is not in use, and the section about its
tasks is written, where the tasks may be met in any order.  Its counts are those of the snapshot at
that instant, in which every task has one outcome; it lists tasks exactly if there are orphans, and
then has a line for each orphan of the snapshot and no other line. -/
theorem statistics_of_snapshot {p : Platform} {registry : Nat} {r : Registry} {met : List Record}
    (hr : p.registries[registry]? = some r) (hfree : p.inUse ≠ some registry)
    (hmet : met.Perm r.records) :
    let s := r.snapshot p.now
    let text := (ofRecords met p.now).flatten
    p.statistics registry = ofRecords r.records p.now ∧
      s.total = s.completed + s.failed + s.cancelled + s.orphaned ∧
      s.orphans.length = s.orphaned ∧
      (Snapshot.heading <:+: text ↔ 0 < s.orphaned) ∧
      ∃ lines : List (List Char), lines.Perm (s.orphans.map Orphan.line) ∧
        text = s.counts ++
          if s.orphaned = 0 then [] else '\n' :: Snapshot.heading ++ lines.flatten := by
  intro s text
  have hsame : (Snapshot.ofRecords met p.now).orphaned = s.orphaned := hmet.countP_eq _
  have hlines : ((met.filter (·.isOrphaned)).map (Orphan.ofRecord p.now)).Perm s.orphans :=
    ((hmet.filter _).map _).trans (Snapshot.orphans_ofRecords r.records p.now).symm
  refine ⟨?_, Snapshot.total_ofRecords _ _, Snapshot.length_orphans_ofRecords _ _, ?_,
    _, hlines.map Orphan.line, ?_⟩
  · rw [Platform.statistics, hr]
    exact if_neg (mt of_decide_eq_true hfree)
  · exact hsame ▸ listed_iff met p.now
  · have hcounts : (Snapshot.ofRecords met p.now).counts = s.counts := Snapshot.counts_perm hmet _
    rw [List.map_map, ← hsame, ← hcounts]
    exact flatten_ofRecords met p.now

/-- Two tasks are pending and one has failed, and they are met in the reverse order. -/
theorem statistics_of_snapshot_reverse :
    let r := (((Registry.new 600 60 0).start "1" "load" 1).1.start "2" "save" 2).1
    let r := ((r.start "3" "sync" 3).1.complete "3" false none 4).1
    let p := { Platform.new (.new []) 5 ⟨0, 0, by decide⟩ 1 "" "" with
      registries := [r] }
    let text := (ofRecords r.records.reverse p.now).flatten
    Snapshot.heading <:+: text ∧ ∃ lines : List (List Char),
      lines.Perm [(⟨"1", "load", 4⟩ : Orphan).line, (⟨"2", "save", 3⟩ : Orphan).line] ∧
        lines.flatten <:+ text := by
  intro _ r p text
  have horphaned : (r.snapshot p.now).orphaned = 2 := by decide +kernel
  have horphans : (r.snapshot p.now).orphans.Perm [⟨"1", "load", 4⟩, ⟨"2", "save", 3⟩] :=
    Snapshot.orphans_ofRecords r.records p.now
  have hr : p.registries[0]? = some r := rfl
  obtain ⟨-, -, -, hlisted, lines, hlines, htext⟩ :=
    statistics_of_snapshot hr nofun (List.reverse_perm r.records)
  rw [horphaned] at hlisted htext
  refine ⟨hlisted.2 Nat.two_pos, lines, hlines.trans (horphans.map _), ?_⟩
  have hsuffix : lines.flatten <:+ (r.snapshot p.now).counts ++
      ('\n' :: Snapshot.heading ++ lines.flatten) :=
    (List.suffix_append _ _).trans (List.suffix_append _ _)
  exact Eq.subst htext.symm hsuffix

end Statistics
end Vigil.Task
