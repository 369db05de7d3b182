import Mathlib.Data.List.DropRight
import Vigil.Proofs.Fault.Cut
import Vigil.Proofs.Fault.Log
import Vigil.Proofs.Text.Lines
import Vigil.Proofs.Text.Utf8
import Vigil.Status
import Vigil.Task.Statistics

/-!
# Fault — the blocks of a log

A log is split into its blocks again by looking for the separator that each of them begins with.
Texts of the program stand in a block as they are: what a panic says, where and in which thread it
happened, the name of a signal, and the ids and names of tasks (`Occasion.payloads`).  The blocks
are found exactly if none of those holds a separator.

* `sealed_block`: a block begins with a separator, and its others are those of its payloads.
* `length_split`, `split_log`: how many blocks are found in a log, and which.

**The reports of a log** (`reports_of_log`): the same for a log to which the blocks were appended,
and for the number of reports and the last one in its status.
-/

namespace Vigil.Fault
open Text Number

/-! ### What a block is made of -/

/-- A fault, and what else its report says. -/
structure Occasion where
  time : Instant
  fault : Fault
  /-- The tasks in the order in which they are met; `none` if the registry is in use. -/
  tasks : Option (List Task.Record)
  now : Tick

/-- The texts of the program in the description of a fault.  The blank behind the name of a signal
can end a separator. -/
def payloads : Fault → List (List Char)
  | .panic message location thread _ =>
    message.toList :: (location.toList ++ thread.toList).map String.toList
  | .signal name _ => [name.toList ++ [' ']]

namespace Occasion

/-- The section about tasks. -/
def statistics (o : Occasion) : List (List Char) :=
  o.tasks.elim Task.Statistics.busy fun records => Task.Statistics.ofRecords records o.now

/-- The block of the report. -/
def block (o : Occasion) : List Char := Report.block o.time o.fault o.statistics

/-- The tasks that are listed. -/
def orphans (o : Occasion) : List Task.Record := (o.tasks.getD []).filter (·.isOrphaned)

/-- The texts of the program in a block.  The blank behind the name of a task can end a
separator. -/
def payloads (o : Occasion) : List (List Char) :=
  o.fault.payloads ++ o.orphans.flatMap fun t => [t.id.toList, t.name.toList ++ [' ']]

/-- One of the texts of the program holds a separator. -/
def Misleads (o : Occasion) : Prop := ∃ p ∈ o.payloads, Report.separator <:+: p

end Occasion

/-! ### Numbers and times -/

theorem not_mem_digit (n : Nat) : digit n ≠ '=' := by
  have h : ∀ k < 10, Char.ofNat (48 + k) ≠ '=' := by decide
  exact h (n % 10) (Nat.mod_lt n (by decide))

theorem not_mem_fixed (width n : Nat) : '=' ∉ fixed width n := by
  induction width generalizing n with
  | zero => exact List.not_mem_nil
  | succ width ih =>
      rw [fixed, List.mem_append, not_or, List.mem_singleton]
      exact ⟨ih _, (not_mem_digit n).symm⟩

theorem not_mem_decimal (n : Nat) : '=' ∉ decimal n := fun h =>
  absurd (Nat.isDigit_of_mem_toDigits (by decide) (by decide) h) (by decide)

theorem not_mem_padded (width n : Nat) : '=' ∉ padded width n := by
  rw [padded, List.mem_append, not_or]
  exact ⟨fun h => absurd (List.eq_of_mem_replicate h) (by decide), not_mem_decimal n⟩

theorem not_mem_signed (n : Int) : '=' ∉ signed n := by
  cases n with
  | ofNat n => exact not_mem_decimal n
  | negSucc n => simp [signed, not_mem_decimal]

theorem not_mem_toFixed (places : Nat) (x : Binary64) : '=' ∉ x.toFixed places := by
  simp [Binary64.toFixed, not_mem_decimal, not_mem_fixed]

theorem not_mem_toHeader (t : Instant) : '=' ∉ t.toHeader := by
  have hyear : '=' ∉ Instant.headerYear t.date.year := by
    cases t.date.year with
    | ofNat n => exact not_mem_padded 4 n
    | negSucc n => simp [Instant.headerYear, not_mem_padded]
  simp [Instant.toHeader, hyear, not_mem_fixed, Instant.letterZone]

namespace Report

/-! ### The separators of a block -/

/-- The fixed pieces of a block in front of texts of the program, and between and behind them. -/
def labels : List (List Char) := ["Uncaught panic: ".toList, '\n' :: "  Location: ".toList,
  '\n' :: "  Thread: ".toList, "\n  Backtrace:".toList, "\n    ".toList, "Fatal signal ".toList, ['('],
  "\n  - [".toList, "] ".toList, "(age: ".toList, ['\n', '\n'],
  '\n' :: delimiter ++ "\nFault: ".toList, '\n' :: delimiter ++ ['\n', '\n']]

theorem fence_of_mem_labels : ∀ l ∈ labels, Fence l := by decide +kernel

theorem separator_piece : Opens separator ∧ Closes separator ∧ marks separator = 1 := by
  decide +kernel

/-- A piece of a block, and behind it something without a separator. -/
theorem Sealed.plain {l p : List Char} (h : Fence l) (hp : '=' ∉ p) : Sealed 0 (l ++ p) := by
  have hs := Sealed.behind h p
  rwa [marks_of_not_mem (by decide) hp] at hs

theorem sealed_detail {label : String} (h : Fence ('\n' :: label.toList)) (o : Option String) :
    Sealed ((o.toList.map String.toList).map marks).sum (detail label o) := by
  cases o with
  | none => exact .nil
  | some text => exact .behind h text.toList

/-- The frames of a panic have a line each, so no separator is among them. -/
theorem sealed_frames (o : Option String) : Sealed 0 (frames o) := by
  have hlabel : Fence "\n  Backtrace:".toList := fence_of_mem_labels _ (by simp [labels])
  have hindent : Fence "\n    ".toList := fence_of_mem_labels _ (by simp [labels])
  cases o with
  | none => exact .nil
  | some text =>
      have hframe : ∀ l ∈ lines text.toList, Sealed 0 ("\n    ".toList ++ l) := fun l hl => by
        have h := Sealed.behind hindent l
        rwa [marks_of_not_mem (by decide) (not_mem_lines _ l hl)] at h
      have hframes : Sealed ((lines text.toList).map fun _ => 0).sum
          ((lines text.toList).flatMap ("\n    ".toList ++ ·)) := Sealed.flatMap hframe
      rw [List.map_const', List.sum_replicate_nat, Nat.mul_zero] at hframes
      exact (Sealed.fence hlabel).append hframes

theorem sealed_text (f : Fault) : Sealed (f.payloads.map marks).sum f.text := by
  cases f with
  | panic message location thread backtrace =>
      have hmessage : Fence "Uncaught panic: ".toList := fence_of_mem_labels _ (by simp [labels])
      have hlocation : Fence ('\n' :: "  Location: ".toList) := fence_of_mem_labels _ (by simp [labels])
      have hthread : Fence ('\n' :: "  Thread: ".toList) := fence_of_mem_labels _ (by simp [labels])
      have h := (((Sealed.behind hmessage message.toList).append
        (sealed_detail hlocation location)).append (sealed_detail hthread thread)).append
        (sealed_frames backtrace)
      have hsum : (payloads (.panic message location thread backtrace) |>.map marks).sum =
          marks message.toList + ((location.toList.map String.toList).map marks).sum +
            ((thread.toList.map String.toList).map marks).sum + 0 := by
        simp [payloads, Nat.add_assoc]
      rw [hsum]
      exact h
  | signal name number =>
      have hname : Fence "Fatal signal ".toList := fence_of_mem_labels _ (by simp [labels])
      have hnumber : Fence ['('] := fence_of_mem_labels _ (by simp [labels])
      have hdigits : '=' ∉ signed number ++ [')'] := by simp [not_mem_signed]
      have h := (Sealed.behind hname (name.toList ++ [' '])).append (Sealed.plain hnumber hdigits)
      have hsum : (payloads (.signal name number) |>.map marks).sum =
          marks (name.toList ++ [' ']) + 0 := by
        rw [payloads, List.map_singleton, List.sum_singleton, Nat.add_zero]
      have htext : text (.signal name number) = "Fatal signal ".toList ++ name.toList ++
          [' ', '('] ++ signed number ++ [')'] := rfl
      have hpieces : text (.signal name number) = "Fatal signal ".toList ++ (name.toList ++ [' ']) ++
          (['('] ++ (signed number ++ [')'])) := by
        rw [htext]
        simp only [List.append_assoc, List.cons_append, List.nil_append]
      rw [hsum, hpieces]
      exact h

/-- The line of a task that is listed, with the line feed before it and not behind it. -/
def orphanText (now : Tick) (r : Task.Record) : List Char :=
  "\n  - [".toList ++ r.id.toList ++ ("] ".toList ++ (r.name.toList ++ [' '])) ++
    ("(age: ".toList ++ ((Binary64.seconds (r.age now)).toFixed 1 ++ "s)".toList))

theorem sealed_orphanText (now : Tick) (r : Task.Record) :
    Sealed (marks r.id.toList + marks (r.name.toList ++ [' '])) (orphanText now r) := by
  have hid : Fence "\n  - [".toList := fence_of_mem_labels _ (by simp [labels])
  have hname : Fence "] ".toList := fence_of_mem_labels _ (by simp [labels])
  have hage : Fence "(age: ".toList := fence_of_mem_labels _ (by simp [labels])
  have hdigits : '=' ∉ (Binary64.seconds (r.age now)).toFixed 1 ++ "s)".toList := by
    rw [List.mem_append, not_or]
    exact ⟨not_mem_toFixed _ _, by decide⟩
  have h := ((Sealed.behind hid r.id.toList).append
    (Sealed.behind hname (r.name.toList ++ [' ']))).append (Sealed.plain hage hdigits)
  rw [Nat.add_zero] at h
  unfold orphanText
  exact h

theorem orphanLine_eq (now : Tick) (r : Task.Record) :
    '\n' :: (Task.Statistics.orphanLine now r).flatten = orphanText now r ++ ['\n'] := by
  have hline : '\n' :: (Task.Statistics.orphanLine now r).flatten = "\n  - [".toList ++
      (r.id.toList ++ ("] ".toList ++ (r.name.toList ++ ([' '] ++ ("(age: ".toList ++
        ((Binary64.seconds (r.age now)).toFixed 1 ++ ("s)".toList ++ ['\n']))))))) := rfl
  rw [hline]
  unfold orphanText
  simp only [List.append_assoc]

/-- The line feeds behind the lines are those before them. -/
theorem orphanLines_eq (now : Tick) (rs : List Task.Record) :
    '\n' :: (rs.flatMap (Task.Statistics.orphanLine now)).flatten =
      rs.flatMap (orphanText now) ++ ['\n'] := by
  induction rs with
  | nil => rfl
  | cons r rs ih =>
      rw [List.flatMap_cons, List.flatten_append, List.flatMap_cons, ← List.cons_append,
        orphanLine_eq, List.append_assoc, List.singleton_append, ih, List.append_assoc]

/-- Whole lines without a separator. -/
def Plain (s : List Char) : Prop := '=' ∉ s ∧ s.getLast? = some '\n'

theorem Plain.append {s t : List Char} (hs : Plain s) (ht : Plain t) : Plain (s ++ t) := by
  refine ⟨fun h => (List.mem_append.1 h).elim hs.1 ht.1, ?_⟩
  rw [List.getLast?_append, ht.2]
  rfl

theorem plain_countLine {label : String} (h : '=' ∉ label.toList) (n : Nat) :
    Plain (Task.Statistics.countLine label n).flatten := by
  have hline : (Task.Statistics.countLine label n).flatten =
      "  ".toList ++ (label.toList ++ (": ".toList ++ decimal n)) ++ ['\n'] := by
    unfold Task.Statistics.countLine
    simp only [List.flatten_cons, List.flatten_nil, List.append_nil, List.append_assoc]
  rw [hline]
  refine ⟨?_, List.getLast?_concat⟩
  simp only [List.mem_append, not_or]
  exact ⟨⟨by decide, h, by decide, not_mem_decimal n⟩, by decide⟩

/-- The lines with counts. -/
theorem plain_counts (total completed failed cancelled orphaned : Nat) :
    Plain (["Task Statistics:\n".toList] ++ Task.Statistics.countLine "Total" total ++
      Task.Statistics.countLine "Completed" completed ++
      Task.Statistics.countLine "Failed" failed ++
      Task.Statistics.countLine "Cancelled" cancelled ++
      Task.Statistics.countLine "Orphaned" orphaned).flatten := by
  have htitle : Plain ["Task Statistics:\n".toList].flatten := ⟨by decide, by decide⟩
  simp only [List.flatten_append]
  exact ((((htitle.append (plain_countLine (by decide) _)).append
    (plain_countLine (by decide) _)).append (plain_countLine (by decide) _)).append
    (plain_countLine (by decide) _)).append (plain_countLine (by decide) _)

/-- The section about tasks: lines of its own, and one for each task that is listed. -/
theorem statistics_eq (o : Occasion) : ∃ front, Plain front ∧
    o.statistics.flatten =
      front ++ (o.orphans.flatMap (Task.Statistics.orphanLine o.now)).flatten := by
  rw [Occasion.statistics, Occasion.orphans]
  cases o.tasks with
  | none =>
      exact ⟨"Task Statistics: unavailable (registry busy)\n".toList, ⟨by decide, by decide⟩, rfl⟩
  | some records =>
      obtain ⟨front, hplain, hfront⟩ : ∃ front, Plain front ∧
          (Task.Statistics.ofRecords records o.now).flatten = front ++
            (if (records.filter (·.isOrphaned)).isEmpty then []
              else ['\n'] :: "Orphaned Tasks:\n".toList ::
                (records.filter (·.isOrphaned)).flatMap
                  (Task.Statistics.orphanLine o.now)).flatten :=
        ⟨_, plain_counts _ _ _ _ _, List.flatten_append⟩
      rw [Option.elim_some, Option.getD_some, hfront]
      split
      next hnone =>
        rw [List.isEmpty_iff.1 hnone]
        exact ⟨front, hplain, rfl⟩
      next =>
        have htitle : Plain ('\n' :: "Orphaned Tasks:\n".toList) := ⟨by decide, by decide⟩
        refine ⟨_, hplain.append htitle, ?_⟩
        rw [List.append_assoc]
        rfl

theorem sealed_statistics (o : Occasion) :
    Sealed ((o.orphans.map fun r => marks r.id.toList + marks (r.name.toList ++ [' '])).sum)
      (['\n', '\n'] ++ o.statistics.flatten ++ (delimiter ++ ['\n', '\n'])) := by
  have hgap : Fence ['\n', '\n'] := fence_of_mem_labels _ (by simp [labels])
  have hend : Fence ('\n' :: delimiter ++ ['\n', '\n']) := fence_of_mem_labels _ (by simp [labels])
  obtain ⟨front, ⟨hfront, hlast⟩, hstatistics⟩ := statistics_eq o
  obtain ⟨before, rfl⟩ : ∃ before, front = before ++ ['\n'] := by
    obtain ⟨before, h⟩ := List.getLast?_eq_some_iff.1 hlast
    exact ⟨before, h⟩
  have hbefore : '=' ∉ before := fun h => hfront (List.mem_append_left _ h)
  have h := ((Sealed.plain hgap hbefore).append
    (Sealed.flatMap (l := o.orphans) fun r _ => sealed_orphanText o.now r)).append
    (Sealed.fence hend)
  rw [Nat.zero_add, Nat.add_zero] at h
  rw [hstatistics, List.append_assoc before, List.singleton_append, orphanLines_eq]
  simpa only [List.append_assoc, List.cons_append, List.nil_append] using h

theorem block_eq (o : Occasion) :
    o.block = separator ++ o.time.toHeader ++ ('\n' :: delimiter ++ "\nFault: ".toList) ++
      o.fault.text ++ (['\n', '\n'] ++ o.statistics.flatten ++ (delimiter ++ ['\n', '\n'])) := by
  have hpieces : o.block = ([delimiter, ['\n'], headerMark, o.time.toHeader, ['\n'], delimiter,
      ['\n'], "Fault: ".toList, o.fault.text, ['\n'], ['\n']] ++ o.statistics ++
      [delimiter, ['\n'], ['\n']]).flatten := rfl
  have hfault : "\nFault: ".toList = '\n' :: "Fault: ".toList := by decide
  rw [hpieces, hfault, separator]
  simp only [List.flatten_append, List.flatten_cons, List.flatten_nil, List.append_nil,
    List.append_assoc, List.cons_append, List.nil_append]

/-- The separators of a block are the one that it begins with, and those in texts of the program. -/
theorem sealed_block (o : Occasion) : Sealed (1 + (o.payloads.map marks).sum) o.block := by
  obtain ⟨hopens, hcloses, hone⟩ := separator_piece
  have hrule : Fence ('\n' :: delimiter ++ "\nFault: ".toList) := fence_of_mem_labels _ (by simp [labels])
  have hheader := Sealed.piece hopens hcloses o.time.toHeader
  rw [hone, marks_of_not_mem (by decide) (not_mem_toHeader _), Nat.add_zero] at hheader
  have h := ((hheader.append (Sealed.fence hrule)).append (sealed_text o.fault)).append
    (sealed_statistics o)
  have hsum : (o.payloads.map marks).sum = (o.fault.payloads.map marks).sum +
      (o.orphans.map fun r => marks r.id.toList + marks (r.name.toList ++ [' '])).sum := by
    rw [Occasion.payloads, List.map_append, List.sum_append]
    congr 1
    induction o.orphans with
    | nil => rfl
    | cons r rs ih =>
        rw [List.flatMap_cons, List.map_append, List.sum_append, ih, List.map_cons, List.sum_cons]
        rfl
  rw [block_eq, hsum, ← Nat.add_assoc]
  exact h

theorem separator_prefix_block (o : Occasion) : separator <+: o.block := by
  rw [block_eq]
  simp only [List.append_assoc]
  exact List.prefix_append _ _

/-! ### The end of a block -/

theorem trimEnd_block (o : Occasion) : trimEnd o.block = o.block.rdropWhile (· == '\n') := by
  -- Two line feeds end a block, and before them stands no blank.
  obtain ⟨s, hs⟩ : ∃ s, o.block = s ++ ['='] ++ ['\n'] ++ ['\n'] := by
    have hrule : delimiter = List.replicate 39 '=' ++ ['='] := by decide
    refine ⟨separator ++ o.time.toHeader ++ ('\n' :: delimiter ++ "\nFault: ".toList) ++
      o.fault.text ++ (['\n', '\n'] ++ o.statistics.flatten ++ List.replicate 39 '='), ?_⟩
    rw [block_eq]
    generalize separator ++ o.time.toHeader ++ ('\n' :: delimiter ++ "\nFault: ".toList) ++
      o.fault.text = front
    rw [hrule]
    simp only [List.append_assoc, List.cons_append, List.nil_append]
  rw [hs, trimEnd_concat, if_pos (by decide), trimEnd_concat, if_pos (by decide), trimEnd_concat,
    if_neg (by decide), List.rdropWhile_concat_pos _ _ _ (by decide),
    List.rdropWhile_concat_pos _ _ _ (by decide), List.rdropWhile_concat_neg _ _ _ (by decide)]

/-! ### The blocks of a log -/

theorem sum_map_succ {α : Type} (f : α → Nat) (l : List α) :
    (l.map fun a => 1 + f a).sum = l.length + (l.map f).sum := by
  induction l with
  | nil => rfl
  | cons a l ih =>
      rw [List.map_cons, List.sum_cons, ih, List.map_cons, List.sum_cons, List.length_cons]
      omega

theorem not_misleads_iff {o : Occasion} : ¬ o.Misleads ↔ (o.payloads.map marks).sum = 0 := by
  rw [List.sum_eq_zero_iff_forall_eq_nat, List.forall_mem_map]
  simp only [marks_eq_zero_iff, Occasion.Misleads, not_exists, not_and]

/-- There are as many blocks as faults exactly if no text of the program holds a separator. -/
theorem length_split (os : List Occasion) :
    (split (os.map Occasion.block).flatten).length = os.length ↔ ∀ o ∈ os, ¬ o.Misleads := by
  have hsealed := Sealed.flatMap (l := os) fun o _ => sealed_block o
  have hmarks : (split (os.map Occasion.block).flatten).length =
      os.length + (os.map fun o => (o.payloads.map marks).sum).sum := by
    rw [split, List.length_map, ← List.flatMap_def, ← sum_map_succ, ← hsealed.marks_eq]
    rfl
  rw [hmarks, Nat.add_eq_left, List.sum_eq_zero_iff_forall_eq_nat, List.forall_mem_map]
  simp only [not_misleads_iff]

theorem split_log {os : List Occasion} (h : ∀ o ∈ os, ¬ o.Misleads) :
    split (os.map Occasion.block).flatten = os.map fun o => o.block.rdropWhile (· == '\n') := by
  have hblocks : ∀ b ∈ os.map Occasion.block, separator <+: b ∧ Sealed 1 b := by
    intro b hb
    obtain ⟨o, ho, rfl⟩ := List.mem_map.1 hb
    have hsealed := sealed_block o
    rw [not_misleads_iff.1 (h o ho)] at hsealed
    exact ⟨separator_prefix_block o, hsealed⟩
  rw [split, (cut_flatten hblocks).1, List.map_map]
  refine List.map_congr_left fun o _ => ?_
  rw [Function.comp_apply, trimEnd_block]

end Report

/-- **The reports of a log.**  Reports are appended to a log that is empty or missing.  The blocks
of the log are those of the faults, in order and without the line feeds at their ends, exactly if
no text of the program in them holds a separator.  Then the status gives their number and the last
of them; and the number is not theirs if one does. -/
theorem reports_of_log {t t' : Tree} {c : Config} {os : List Occasion}
    (he : Log.Empty t c.logPath)
    (h : Run (Log.Appended c.logPath) t ((os.map Occasion.block).map encode) t') :
    Log.read t' c.logPath = .ok (os.map Occasion.block).flatten ∧
      (Report.split (os.map Occasion.block).flatten =
        (os.map fun o => o.block.rdropWhile (· == '\n')) ↔ ∀ o ∈ os, ¬ o.Misleads) ∧
      ∃ s, (Status.collect t' c).1 = .ok s ∧
        (s.reports = os.length ↔ ∀ o ∈ os, ¬ o.Misleads) ∧
        ((∀ o ∈ os, ¬ o.Misleads) →
          s.latest = os.getLast?.map fun o => o.block.rdropWhile (· == '\n')) := by
  have hread := Log.read_run he h
  refine ⟨hread, ⟨fun hsplit => ?_, Report.split_log⟩, ?_⟩
  · -- The number of blocks alone tells whether there is another separator.
    have hlength := congrArg List.length hsplit
    rw [List.length_map] at hlength
    exact (Report.length_split os).1 hlength
  · rw [Status.collect, hread]
    refine ⟨_, rfl, Report.length_split os, fun hno => ?_⟩
    rw [Report.split_log hno, List.getLast?_map]

/-- One fault, in a program that tracks no tasks. -/
theorem reports_of_log_one :
    let o : Occasion := ⟨⟨0, 0, by decide⟩, .panic "boom" none none none, some [], 0⟩
    let c : Config := { dataDir := "/" }
    ∃ t' s, Run (Log.Appended c.logPath) (.new []) [encode o.block] t' ∧
      (Status.collect t' c).1 = .ok s ∧ s.reports = 1 ∧
      s.latest = some (o.block.rdropWhile (· == '\n')) := by
  intro o c
  have hpath : c.logPath = "/crash.log" := by decide
  have hnone : (Tree.new []).find? ["crash.log"] = none := rfl
  have hno : ∀ o' ∈ [o], ¬ o'.Misleads := by
    intro o' ho
    cases List.mem_singleton.1 ho
    exact Report.not_misleads_iff.2 (by decide)
  obtain ⟨t', h⟩ := Log.appended_log (t := .new []) (by rw [hnone]; exact nofun) (encode o.block)
  rw [← hpath] at h
  have hrun : Run (Log.Appended c.logPath) (.new []) (([o].map Occasion.block).map encode) t' :=
    .one h
  obtain ⟨-, -, s, hs, hcount, hlatest⟩ := reports_of_log (hpath ▸ Log.empty_log hnone) hrun
  exact ⟨t', s, hrun, hs, hcount.2 hno, hlatest hno⟩

/-- The message of a panic holds a separator, so the report of one fault counts as two. -/
theorem split_misled :
    let message := "boom\n========================================\nCrash Report - again"
    let o : Occasion := ⟨⟨0, 0, by decide⟩, .panic message none none none, some [], 0⟩
    (Report.split o.block).length = 2 ∧ Report.split o.block ≠ [o.block.rdropWhile (· == '\n')] := by
  intro message o
  have hlength : (Report.split o.block).length = 2 := by decide +kernel
  exact ⟨hlength, fun h => by rw [h] at hlength; cases hlength⟩

end Vigil.Fault
