import Vigil.Platform.Basic
import Vigil.Proofs.Fault.Log
import Vigil.Proofs.Fault.Truncation
import Vigil.Proofs.Text.Utf8
import Vigil.Status

/-!
# Fault — whether the log stays readable

A report that is written while a signal is handled has little room, and what is too long is cut at a
fixed number of bytes, wherever characters end.  The log is read as a whole, so a report that ends
in the middle of a character (`Written.Splits`) takes all others with it.

* `isText_bytes`, `closed_bytes`: when a report is a text; what is written behind it is read as it
  is by itself.
* `Logs.step`, `Logs.run`: the log is what was there, and all reports behind one another.

**A readable log** (`readable_log`): a log that was a text is one afterwards, and is read by all its
readers, exactly if no report in it was cut in the middle of a character.
-/

namespace Vigil.Fault
open Text

/-! ### One report -/

/-- A report as it is written to a log. -/
structure Written where
  time : Instant
  fault : Fault
  /-- The section about tasks. -/
  statistics : List (List Char)
  /-- Whether it is written while a signal is handled. -/
  inSignal : Bool

namespace Written

/-- The whole report. -/
def text (w : Written) : List Char := Report.block w.time w.fault w.statistics

/-- What is written of it. -/
def bytes (w : Written) : Bytes :=
  if w.inSignal then Capture.signalBytes w.time w.fault w.statistics else encode w.text

/-- How much is left of a report that is too long for a signal. -/
def signalFront : Nat := Capture.signalRoom - FixedBuffer.notice.length

/-- The report is cut, and not between two characters. -/
def Splits (w : Written) : Prop :=
  w.inSignal = true ∧ Capture.signalRoom < (encode w.text).length ∧
    ¬ IsBoundary w.text signalFront

variable {w : Written}

theorem bytes_of_fits (h : w.inSignal = true → (encode w.text).length ≤ Capture.signalRoom) :
    w.bytes = encode w.text := by
  rw [bytes]
  split
  next hs =>
    have hwhole : encode w.text =
        ((Report.pieces w.time w.fault w.statistics).map encode).flatten := encode_flatten _
    have hfit := h hs
    rw [hwhole] at hfit ⊢
    rw [Capture.signalBytes, Report.writeTo, FixedBuffer.finish_writeAll, List.length_replicate,
      if_pos hfit]
  next => rfl

theorem bytes_of_cut (hs : w.inSignal = true)
    (h : Capture.signalRoom < (encode w.text).length) :
    w.bytes = (encode w.text).take signalFront ++ FixedBuffer.notice := by
  have hwhole : encode w.text =
      ((Report.pieces w.time w.fault w.statistics).map encode).flatten := encode_flatten _
  have hnotice : FixedBuffer.notice.length ≤ Capture.signalRoom := by decide
  rw [hwhole] at h ⊢
  rw [bytes, if_pos hs, Capture.signalBytes, Report.writeTo, FixedBuffer.finish_writeAll,
    List.length_replicate, if_neg (Nat.not_le.2 h), if_pos hnotice]
  rfl

theorem notice_eq :
    FixedBuffer.notice = 10 :: encode "[report truncated]\n".toList := by
  rfl

/-- What is written behind a report is read as it is by itself, even behind one that is cut. -/
theorem closed_bytes (w : Written) : Closed w.bytes := by
  by_cases hcut : w.inSignal = true ∧ Capture.signalRoom < (encode w.text).length
  · -- The notice begins with a line feed, which ends whatever was cut.
    rw [bytes_of_cut hcut.1 hcut.2, notice_eq]
    exact closed_lineFeed _ (isText_encode _)
  · rw [bytes_of_fits fun hs => Nat.not_lt.1 fun h => hcut ⟨hs, h⟩]
    exact closed_of_isText (isText_encode _)

/-- A report is a text exactly if it is not cut in the middle of a character. -/
theorem isText_bytes : IsText w.bytes ↔ ¬ w.Splits := by
  by_cases hcut : w.inSignal = true ∧ Capture.signalRoom < (encode w.text).length
  · have hle : signalFront ≤ (encode w.text).length :=
      Nat.le_trans (Nat.sub_le _ _) (Nat.le_of_lt hcut.2)
    rw [bytes_of_cut hcut.1 hcut.2, notice_eq, isText_lineFeed, isText_take hle]
    constructor
    · exact fun h hw => hw.2.2 h.1
    · exact fun h => ⟨Classical.byContradiction fun hb => h ⟨hcut.1, hcut.2, hb⟩, isText_encode _⟩
  · rw [bytes_of_fits fun hs => Nat.not_lt.1 fun h => hcut ⟨hs, h⟩]
    exact ⟨fun _ hw => hcut ⟨hw.1, hw.2.1⟩, fun _ => isText_encode _⟩

end Written
end Vigil.Fault

namespace Vigil.Platform
open Fault

/-! ### What happens to a log -/

/-- The log of a capture is this one, maybe under another path. -/
def Targets (p : Platform) (log : String) (c : Capture) : Prop :=
  p.files.place c.logPath = p.files.place log

/-- The log is there with these contents, and what was opened as this log is this file. -/
structure Logs (log : String) (b : Bytes) (p : Platform) : Prop where
  read : p.files.read log = .ok b
  opened : ∀ c ∈ p.captures, p.Targets log c → ∀ id, c.logFile = some id →
    p.files.find? (p.files.place log) = some (.file id b)

/-- The report of a fault for a capture, as it is written. -/
def written (p : Platform) (c : Capture) (fault : Fault) (inSignal : Bool) : Written :=
  ⟨p.wall, fault, p.statistics c.registry, inSignal⟩

/-- A step of a program that writes to a log, with the report that it writes, if it writes one. -/
inductive Logging (log : String) : Platform → Option Written → Platform → Prop where
  /-- Something is kept ready for faults. -/
  | prepare {p : Platform} {path : String} (hlog : p.files.place path = p.files.place log)
      (registry : Nat) : Logging log p none (p.addCapture registry path)
  /-- A fault is recorded; its report may not get into the log. -/
  | record {p : Platform} {i : Nat} {c : Capture} (hc : p.captures[i]? = some c)
      (hlog : p.Targets log c) (fault : Fault) :
      Logging log p (if (p.record i fault).2 then some (p.written c fault false) else none)
        (p.record i fault).1
  /-- A fault is recorded while a signal is handled; only the first one is. -/
  | signal {p : Platform} {i : Nat} {c : Capture} (hc : p.captures[i]? = some c)
      (hlog : p.Targets log c) (fault : Fault) :
      Logging log p (if (p.recordSignal i fault).2 then some (p.written c fault true) else none)
        (p.recordSignal i fault).1
  /-- Anything else: time passes, tasks start and end, other files change. -/
  | other {p p' : Platform} {touched : Place → Prop} (hfiles : Tree.Keeps touched p.files p'.files)
      (hlog : ¬ touched (p.files.place log))
      (hcaptures : ∀ c ∈ p'.captures, p.Targets log c → c ∈ p.captures) : Logging log p none p'

/-- What a step writes. -/
def added (w : Option Written) : Bytes := w.elim [] Written.bytes

theorem added_if (done : Bool) (w : Written) :
    added (if done then some w else none) = if done then w.bytes else [] := by
  cases done <;> rfl

/-- What recording a fault changes, the events apart. -/
theorem record_eq {p : Platform} {i : Nat} {c : Capture} (hc : p.captures[i]? = some c)
    (fault : Fault) :
    (p.record i fault).1.files =
        (Log.append p.files c.logPath (Text.encode (p.report c fault))).1 ∧
      (p.record i fault).2 = (Log.append p.files c.logPath (Text.encode (p.report c fault))).2 ∧
      (p.record i fault).1.captures = p.captures.set i c.count := by
  simp only [Platform.record, hc, note, and_self]

namespace Logs
variable {log : String} {b : Bytes} {p p' : Platform}

/-- A log that can be opened is there afterwards, as it was or empty. -/
theorem addCapture (hnew : p.captures = []) (hb : Log.Contains p.files log b) {t : Tree} {id : Nat}
    (ho : p.files.openAppend log = (t, .ok id)) (registry : Nat) :
    (p.addCapture registry log).Logs log b := by
  obtain ⟨hread, hfind⟩ := Log.contains_openAppend hb ho
  rw [Platform.addCapture, Capture.prepare, ho, hnew]
  refine ⟨hread, fun c hc _ i hi => ?_⟩
  cases List.mem_singleton.1 hc
  cases hi
  exact hfind

theorem prepare (h : p.Logs log b) {path : String}
    (hlog : p.files.place path = p.files.place log) (registry : Nat) :
    (p.addCapture registry path).Logs log b := by
  have hadds := p.files.adds_openAppend path
  have hcontains := Log.contains_of_read h.read
  rw [Log.Contains, ← hlog] at hcontains
  rw [Platform.addCapture, Capture.prepare]
  cases ho : p.files.openAppend path with
  | mk t opened =>
      rw [ho] at hadds
      refine ⟨hadds.read h.read, fun c hc htarget id hid => ?_⟩
      rw [hadds.place]
      rcases List.mem_append.1 hc with hc | hc
      · rw [Targets, hadds.place, hadds.place] at htarget
        exact hadds.find? (h.opened c hc htarget id hid)
      · cases List.mem_singleton.1 hc
        cases opened with
        | error e => cases hid
        | ok i =>
            cases hid
            rw [← hlog, ← hadds.place]
            exact (Log.contains_openAppend hcontains ho).2

theorem record (h : p.Logs log b) {i : Nat} {c : Capture} (hc : p.captures[i]? = some c)
    (hlog : p.Targets log c) (fault : Fault) :
    (p.record i fault).1.Logs log
      (b ++ if (p.record i fault).2 then (p.written c fault false).bytes else []) := by
  have hbytes : (p.written c fault false).bytes = Text.encode (p.report c fault) :=
    if_neg Bool.false_ne_true
  -- The log may be opened anew, and under another path: it is the same file.
  obtain ⟨hfiles, hdone, hcaptures⟩ := record_eq hc fault
  rw [hbytes, hdone]
  constructor
  · rw [hfiles]
    exact Log.read_append h.read hlog
  · rw [hfiles, hcaptures]
    intro c' hc' htarget id hid
    rw [Targets, hfiles, Log.place_append, Log.place_append] at htarget
    have hfind : p.files.find? (p.files.place log) = some (.file id b) := by
      rcases List.mem_or_eq_of_mem_set hc' with hc' | rfl
      · exact h.opened c' hc' htarget id hid
      · exact h.opened c (List.mem_of_getElem? hc) hlog id hid
    rw [← hlog] at hfind
    rw [Log.place_append, ← hlog, ← Log.place_append]
    exact Log.find?_append hfind

theorem signal (h : p.Logs log b) {i : Nat} {c : Capture} (hc : p.captures[i]? = some c)
    (hlog : p.Targets log c) (fault : Fault) :
    (p.recordSignal i fault).1.Logs log
      (b ++ if (p.recordSignal i fault).2 then (p.written c fault true).bytes else []) := by
  have hcaptures : ∀ c' ∈ p.captures.set i c.signal, p.Targets log c' → ∀ id,
      c'.logFile = some id → p.files.find? (p.files.place log) = some (.file id b) := by
    intro c' hc' htarget id hid
    rcases List.mem_or_eq_of_mem_set hc' with hc' | rfl
    · exact h.opened c' hc' htarget id hid
    · exact h.opened c (List.mem_of_getElem? hc) hlog id hid
  rw [Platform.recordSignal, hc]
  simp only
  split
  next => exact (List.append_nil b).symm ▸ h
  next =>
    split
    next => exact (List.append_nil b).symm ▸ ⟨h.read, hcaptures⟩
    next id hid =>
      have hfind := h.opened c (List.mem_of_getElem? hc) hlog id hid
      have hbytes : (p.written c fault true).bytes =
          Capture.signalBytes p.wall fault (p.statistics c.registry) := if_pos rfl
      have hplace := (p.files.keeps_appendTo id
        (Capture.signalBytes p.wall fault (p.statistics c.registry))).place
      -- The file that was opened beforehand grows, and that is the log.
      rw [if_pos rfl, hbytes]
      refine ⟨Tree.read_appendTo h.read hfind, fun c' hc' htarget id' hid' => ?_⟩
      replace htarget : p.Targets log c' := (hplace _).symm.trans (htarget.trans (hplace _))
      cases hfind.symm.trans (hcaptures c' hc' htarget id' hid')
      exact (congrArg _ (hplace log)).trans (Tree.find?_appendTo_self hfind)

theorem other {touched : Place → Prop} (h : p.Logs log b)
    (hfiles : Tree.Keeps touched p.files p'.files) (hlog : ¬ touched (p.files.place log))
    (hcaptures : ∀ c ∈ p'.captures, p.Targets log c → c ∈ p.captures) : p'.Logs log b := by
  refine ⟨hfiles.read h.read hlog, fun c hc htarget id hid => ?_⟩
  rw [Targets, hfiles.place, hfiles.place] at htarget
  rw [hfiles.place, hfiles.elsewhere _ hlog]
  exact h.opened c (hcaptures c hc htarget) htarget id hid

/-- A step leaves the log as it was, or with one more report. -/
theorem step (h : p.Logs log b) {w : Option Written} (hs : Logging log p w p') :
    p'.Logs log (b ++ added w) := by
  cases hs with
  | prepare hlog registry => exact (List.append_nil b).symm ▸ h.prepare hlog registry
  | record hc hlog fault =>
      rw [added_if]
      exact h.record hc hlog fault
  | signal hc hlog fault =>
      rw [added_if]
      exact h.signal hc hlog fault
  | other hfiles hlog hcaptures =>
      exact (List.append_nil b).symm ▸ h.other hfiles hlog hcaptures

/-- After a run the log is what was there, and all reports behind one another. -/
theorem run (h : p.Logs log b) {ws : List (Option Written)} (hr : Run (Logging log) p ws p') :
    p'.Logs log (b ++ ws.flatMap added) := by
  induction hr generalizing b with
  | refl => exact (List.append_nil b).symm ▸ h
  | @more p p₁ p' w ws hs _ ih =>
      rw [List.flatMap_cons, ← List.append_assoc]
      exact ih (h.step hs)

end Logs

end Vigil.Platform

namespace Vigil

/-- The status is given exactly if the log can be read. -/
theorem Status.exists_collect_iff {t : Tree} {c : Config} :
    (∃ s, (Status.collect t c).1 = .ok s) ↔ ∃ s, Fault.Log.read t c.logPath = .ok s := by
  rw [Status.collect]
  cases Fault.Log.read t c.logPath with
  | ok s => exact ⟨fun _ => ⟨s, rfl⟩, fun _ => ⟨_, rfl⟩⟩
  | error e => exact ⟨fun ⟨_, h⟩ => (nomatch h), fun ⟨_, h⟩ => (nomatch h)⟩

namespace Fault
open Text

theorem closed_added (w : Option Written) : Closed (Platform.added w) := by
  cases w with
  | none => exact fun _ => rfl
  | some w => exact w.closed_bytes

theorem isText_added {w : Option Written} :
    IsText (Platform.added w) ↔ ∀ w' ∈ w, ¬ w'.Splits := by
  cases w with
  | none => exact ⟨fun _ _ h => (nomatch h), fun _ h => (nomatch h)⟩
  | some w =>
      refine Written.isText_bytes.trans ⟨fun h w' hw => ?_, fun h => h w rfl⟩
      cases hw
      exact h

/-! ### A task with a long name -/

/-- A program that tracks one task, with a log that was opened and is empty. -/
def tracking (time : Instant) (id name : String) : Platform :=
  let p := (Platform.new (.new []) 0 time 1 "" "").addRegistry 1 1
  (p.withRegistry 0 () fun r =>
    ((r.start id name 0).1, (), (r.start id name 0).2)).1.addCapture 0 "/crash.log"

theorem ready_tracking (time : Instant) (id name : String) : ∃ file,
    (tracking time id name).captures[0]? = some ⟨0, "/crash.log", some file, false, 0⟩ ∧
      (tracking time id name).Logs "/crash.log" [] := by
  have hnone : (Tree.new []).find? ["crash.log"] = none := rfl
  obtain ⟨t, file, ho⟩ := (Tree.new []).openAppend_log (by rw [hnone]; exact nofun)
  -- Which file is opened does not depend on the task.
  have hstart : ∃ p : Platform, p.files = .new [] ∧ p.captures = [] ∧
      tracking time id name = p.addCapture 0 "/crash.log" := ⟨_, rfl, rfl, rfl⟩
  obtain ⟨p, hfiles, hcaptures, hp⟩ := hstart
  rw [← hfiles] at ho hnone
  rw [hp]
  refine ⟨file, ?_, .addCapture hcaptures (Log.empty_log hnone).2 ho 0⟩
  rw [Platform.addCapture, Capture.prepare, ho, hcaptures]
  rfl

/-- The report of a signal in this program. -/
def trackingReport (time : Instant) (id name : String) : Written where
  time := time
  fault := .signal "SIGSEGV" 11
  statistics := Task.Statistics.ofRecords [.new id name 0] 0
  inSignal := true

/-- The report up to the name of the task. -/
def trackingFront (time : Instant) (id : String) : List Char :=
  ((Report.pieces time (.signal "SIGSEGV" 11)
    (Task.Statistics.ofRecords [.new id "" 0] 0)).take 42).flatten

theorem text_trackingReport (time : Instant) (id name : String) : ∃ back,
    (trackingReport time id name).text = trackingFront time id ++ (name.toList ++ back) := by
  let pieces := fun name =>
    Report.pieces time (.signal "SIGSEGV" 11) (Task.Statistics.ofRecords [.new id name 0] 0)
  obtain ⟨back, hpieces⟩ : ∃ back, pieces name = (pieces "").take 42 ++ name.toList :: back :=
    ⟨_, rfl⟩
  refine ⟨back.flatten, ?_⟩
  have htext : (trackingReport time id name).text = (pieces name).flatten := rfl
  rw [htext, hpieces, List.flatten_append, List.flatten_cons]
  rfl

theorem recordSignal_tracking (time : Instant) (id name : String) :
    let p := tracking time id name
    let p' := (p.recordSignal 0 (.signal "SIGSEGV" 11)).1
    Run (Platform.Logging "/crash.log") p [some (trackingReport time id name)] p' := by
  intro p p'
  obtain ⟨file, hc, -⟩ := ready_tracking time id name
  have hwritten : p.written ⟨0, "/crash.log", some file, false, 0⟩ (.signal "SIGSEGV" 11) true =
      trackingReport time id name := rfl
  have hdone : (p.recordSignal 0 (.signal "SIGSEGV" 11)).2 = true := by
    rw [Platform.recordSignal, hc]
    rfl
  have hstep := Platform.Logging.signal hc rfl (.signal "SIGSEGV" 11)
  rw [if_pos hdone, hwritten] at hstep
  exact .one hstep

section
variable {time : Instant} {id name : String} {k : Nat}

theorem width_eacute : (String.utf8EncodeChar 'é').length = 2 := by decide

/-- The report is too long for a signal with a long name of characters of two bytes each. -/
theorem long_trackingReport (time : Instant) (id : String)
    (hname : name.toList = List.replicate k 'é') (hk : Capture.signalRoom < 2 * k) :
    Capture.signalRoom < (encode (trackingReport time id name).text).length := by
  obtain ⟨back, htext⟩ := text_trackingReport time id name
  have hlength : (encode (List.replicate k 'é')).length = k * 2 := by
    rw [encode, List.length_flatMap, List.map_replicate, List.sum_replicate_nat, width_eacute]
  rw [htext, hname, encode, List.flatMap_append, List.flatMap_append, ← encode, ← encode,
    List.length_append, List.length_append, hlength]
  omega

/-- The report is cut in the name, which has a boundary at every other byte. -/
theorem splits_trackingReport {n : Nat} (hname : name.toList = List.replicate k 'é')
    (hk : Capture.signalRoom < 2 * k) (hn : (encode (trackingFront time id)).length = n)
    (hle : n ≤ Written.signalFront) :
    (trackingReport time id name).Splits ↔ ¬ 2 ∣ Written.signalFront - n := by
  obtain ⟨back, htext⟩ := text_trackingReport time id name
  have hfront : Written.signalFront ≤ Capture.signalRoom := Nat.sub_le _ _
  have hinside : Written.signalFront - n ≤ k * (String.utf8EncodeChar 'é').length := by
    rw [width_eacute]
    omega
  have hboundary : IsBoundary (trackingReport time id name).text Written.signalFront ↔
      2 ∣ Written.signalFront - n := by
    rw [htext, hname, isBoundary_append (hn ▸ hle), hn, isBoundary_replicate hinside, width_eacute]
  rw [Written.Splits, hboundary]
  exact ⟨fun h => h.2.2, fun h => ⟨rfl, long_trackingReport time id hname hk, h⟩⟩

end

/-! ### The log -/

/-- **A readable log.**  Any number of faults, of any program, are recorded in a log that is a text,
while signals are handled or not.  The log is what was there and all reports behind one another; it
is a text, can be read, and has a status for every configuration that names it, exactly if no report
that was written while a signal was handled is cut in the middle of a character. -/
theorem readable_log {p p' : Platform} {log : String} {b : Bytes} {ws : List (Option Written)}
    (hlog : p.Logs log b) (hb : IsText b) (h : Run (Platform.Logging log) p ws p') :
    p'.files.read log = .ok (b ++ ws.flatMap Platform.added) ∧
      (IsText (b ++ ws.flatMap Platform.added) ↔ ∀ w, some w ∈ ws → ¬ w.Splits) ∧
      ((∃ s, Log.read p'.files log = .ok s) ↔ ∀ w, some w ∈ ws → ¬ w.Splits) ∧
      ∀ c : Config, c.logPath = log →
        ((∃ s, (Status.collect p'.files c).1 = .ok s) ↔ ∀ w, some w ∈ ws → ¬ w.Splits) := by
  have hread := (hlog.run h).read
  have htext : IsText (b ++ ws.flatMap Platform.added) ↔ ∀ w, some w ∈ ws → ¬ w.Splits := by
    rw [(closed_of_isText hb).isText_append, isText_flatMap fun w _ => closed_added w]
    simp only [isText_added, Option.mem_def]
    constructor
    · exact fun hall w hw => hall.2 (some w) hw w rfl
    · exact fun hall => ⟨hb, fun w hw w' hw' => hall w' (hw' ▸ hw)⟩
  -- Both readers decode the whole file.
  have hlogRead := (Log.exists_read_iff hread).trans htext
  refine ⟨hread, htext, hlogRead, fun c hc => ?_⟩
  rw [Status.exists_collect_iff, hc]
  exact hlogRead

/-- A report is cut between two characters. -/
theorem readable_log_cut :
    let time : Instant := ⟨0, 0, by decide⟩
    let name := String.ofList (List.replicate 8200 'é')
    let p := tracking time "jobs" name
    let p' := (p.recordSignal 0 (.signal "SIGSEGV" 11)).1
    p.Logs "/crash.log" [] ∧ IsText [] ∧
      Run (Platform.Logging "/crash.log") p [some (trackingReport time "jobs" name)] p' ∧
      Capture.signalRoom < (encode (trackingReport time "jobs" name).text).length ∧
      ∃ s, Log.read p'.files "/crash.log" = .ok s := by
  intro time name p p'
  obtain ⟨-, -, hlog⟩ := ready_tracking time "jobs" name
  have hname : name.toList = List.replicate 8200 'é' := String.toList_ofList
  have hlength : (encode (trackingFront time "jobs")).length = 268 := by decide +kernel
  have hfront : Written.signalFront = 16364 := by decide
  have hsplits : ¬ (trackingReport time "jobs" name).Splits := by
    rw [splits_trackingReport hname (by decide) hlength (by omega), hfront]
    decide
  have hrun := recordSignal_tracking time "jobs" name
  have htext : IsText [] := isText_encode []
  obtain ⟨-, -, hread, -⟩ := readable_log hlog htext hrun
  refine ⟨hlog, htext, hrun, long_trackingReport time "jobs" hname (by decide),
    hread.2 fun w hw => ?_⟩
  cases List.mem_singleton.1 hw
  exact hsplits

/-- With an id that is shorter by one letter a character is cut in two. -/
theorem unreadable_log :
    let time : Instant := ⟨0, 0, by decide⟩
    let name := String.ofList (List.replicate 8200 'é')
    let p := tracking time "job" name
    p.Logs "/crash.log" [] ∧ ¬ ∃ s,
      Log.read (p.recordSignal 0 (.signal "SIGSEGV" 11)).1.files "/crash.log" = .ok s := by
  intro time name p
  obtain ⟨-, -, hlog⟩ := ready_tracking time "job" name
  have hname : name.toList = List.replicate 8200 'é' := String.toList_ofList
  have hlength : (encode (trackingFront time "job")).length = 267 := by decide +kernel
  have hfront : Written.signalFront = 16364 := by decide
  have hsplits : (trackingReport time "job" name).Splits := by
    rw [splits_trackingReport hname (by decide) hlength (by omega), hfront]
    decide
  have hread := (hlog.run (recordSignal_tracking time "job" name)).read
  refine ⟨hlog, fun h => ?_⟩
  have htext := (Log.exists_read_iff hread).1 h
  rw [List.nil_append, List.flatMap_singleton, isText_added] at htext
  exact htext _ rfl hsplits

end Fault
end Vigil
