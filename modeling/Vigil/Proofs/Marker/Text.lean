import Vigil.Marker.Text
import Vigil.Proofs.Calendar.Rfc3339
import Vigil.Proofs.Text.Lines

/-!
# Marker — markers read back

From a marker's own text the start is read that the text shows (`Instant.shown`), if it is written
with a year of four digits and the version stands in a line as it is (`Text.Inline`).

* `draft_toText`: what the three lines of a text say, one field each.
* `parse?_toText_iff`: of the markers with such a year exactly those with such a version are read
  back whose start is shown as it is.
* `parse?_toText_of_parse?`: a version that was read from a text is always such a version, so only
  the year decides whether a marker that was read is read back from its own text.
-/

namespace Vigil.Marker
open Text Number

/-! ### The values of the fields -/

theorem isBlank_of_isDigit {c : Char} (h : isDigit c = true) : isBlank c = false := by
  obtain ⟨hlow, hhigh⟩ := Bool.and_eq_true_iff.1 h
  have hlow : 48 ≤ c.toNat := Char.le_def.1 (of_decide_eq_true hlow)
  have hhigh : c.toNat ≤ 57 := Char.le_def.1 (of_decide_eq_true hhigh)
  simp only [isBlank, Bool.or_eq_false_iff, Bool.and_eq_false_iff, decide_eq_false_iff_not,
    beq_eq_false_iff_ne]
  omega

theorem inline_decimal (n : Nat) : Inline (decimal n) :=
  .of_forall fun _ hc => isBlank_of_isDigit (isDigit_of_mem_decimal hc)

/-- No blank is in the text of an instant. -/
theorem inline_toRfc3339 (t : Instant) : Inline (t.toRfc3339 Instant.numericZone) := by
  have hfixed : ∀ width n, ∀ c ∈ fixed width n, isBlank c = false := fun _ _ _ hc =>
    isBlank_of_isDigit (isDigit_of_mem_fixed hc)
  have hyear : ∀ year, ∀ c ∈ Instant.yearText year, isBlank c = false := fun year => by
    rw [Instant.yearText]
    split
    · exact hfixed _ _
    · refine List.forall_mem_cons.2 ⟨by split <;> decide, List.forall_mem_append.2 ⟨?_, ?_⟩⟩
      · intro c hc
        rw [(List.mem_replicate.1 hc).2]
        decide
      · exact fun _ hc => isBlank_of_isDigit (isDigit_of_mem_decimal hc)
  have hfraction : ∀ nanos, ∀ c ∈ Instant.fraction nanos, isBlank c = false := fun nanos => by
    have hpoint : isBlank '.' = false := by decide
    rw [Instant.fraction]
    repeat' split
    · exact List.forall_mem_nil _
    all_goals exact List.forall_mem_cons.2 ⟨hpoint, hfixed _ _⟩
  refine .of_forall ?_
  have hzone : Instant.numericZone.any isBlank = false := by decide
  simp only [Instant.toRfc3339, List.forall_mem_append, List.forall_mem_cons]
  exact ⟨⟨⟨⟨⟨⟨⟨hyear _, by decide, hfixed _ _⟩, by decide, hfixed _ _⟩, by decide, hfixed _ _⟩,
    by decide, hfixed _ _⟩, by decide, hfixed _ _⟩, hfraction _⟩,
    fun _ hc => Bool.eq_false_iff.2 (List.any_eq_false.1 hzone _ hc)⟩

/-- A process id is read from its digits. -/
theorem parsePid?_decimal (pid : UInt32) : parsePid? (decimal pid.toNat) = some pid := by
  have hall : (decimal pid.toNat).all isDigit = true :=
    List.all_eq_true.2 fun _ hc => isDigit_of_mem_decimal hc
  have hne : (decimal pid.toNat).isEmpty = false :=
    List.isEmpty_eq_false_iff.2 (decimal_ne_nil _)
  have hsign : ∀ rest, decimal pid.toNat ≠ '+' :: rest := fun rest heq => by
    have hdigit : isDigit '+' = true := isDigit_of_mem_decimal (heq ▸ List.mem_cons_self)
    cases hdigit
  rw [parsePid?, hall, hne, ofDigits_decimal]
  · simp only [Bool.not_true, Bool.or_self, Bool.false_eq_true, if_false, UInt32.toNat_lt_size,
      if_true, UInt32.ofNat_toNat]
  · exact hsign

/-! ### The lines of a text -/

/-- A line is found again in what is written on it. -/
theorem lines_line {key value : List Char} (hkey : '\n' ∉ key) (hvalue : Inline value)
    (rest : List Char) :
    lines (line key value ++ rest) = (key ++ ':' :: ' ' :: value) :: lines rest := by
  have hfeed : '\n' ∉ key ++ ':' :: ' ' :: value := by
    simp only [List.mem_append, List.mem_cons, not_or]
    exact ⟨hkey, by decide, by decide, hvalue.feed⟩
  have hlast : (key ++ ':' :: ' ' :: value).getLast? ≠ some '\r' := by
    rw [List.getLast?_append_of_ne_nil _ (List.cons_ne_nil _ _), List.getLast?_cons_cons]
    cases value with
    | nil => decide
    | cons c value =>
        rw [List.getLast?_cons_cons]
        intro hreturn
        exact absurd (hvalue.last _ hreturn) (by decide)
  have hsplit := lines_append_feed hfeed hlast rest
  rwa [line, List.append_assoc, List.singleton_append]

/-- The lines of a marker's text. -/
theorem lines_toText {m : Marker} (h : Inline m.version.toList) :
    lines m.toText =
      [startKey ++ ':' :: ' ' :: m.start.toRfc3339 Instant.numericZone,
        pidKey ++ ':' :: ' ' :: decimal m.pid.toNat,
        versionKey ++ ':' :: ' ' :: m.version.toList] := by
  have hend := lines_line (show '\n' ∉ versionKey by decide) h []
  rw [List.append_nil] at hend
  rw [toText, List.append_assoc, lines_line (by decide) (inline_toRfc3339 _),
    lines_line (by decide) (inline_decimal _), hend]
  rfl

/-- What a line says that a field was written on. -/
theorem Draft.read_line (d : Draft) {key value : List Char} (hcolon : ':' ∉ key) (hkey : Inline key)
    (hvalue : Inline value) :
    d.read (key ++ ':' :: ' ' :: value) =
      if key = startKey then { d with start := Instant.ofRfc3339? value }
      else if key = pidKey then { d with pid := parsePid? value }
      else if key = versionKey then { d with version := some (String.ofList value) }
      else d := by
  simp only [Draft.read, splitOnce?_append hcolon, hkey.trim, hvalue.trim_space]

/-- What the lines of a marker's text say. -/
theorem draft_toText {m : Marker} (h : Inline m.version.toList) :
    (lines m.toText).foldl Draft.read {} =
      ⟨Instant.ofRfc3339? (m.start.toRfc3339 Instant.numericZone), some m.pid,
        some m.version⟩ := by
  have hstart : Inline startKey := by decide
  have hpid : Inline pidKey := by decide
  have hversion : Inline versionKey := by decide
  rw [lines_toText h]
  simp only [List.foldl_cons, List.foldl_nil]
  rw [Draft.read_line _ (by decide) hstart (inline_toRfc3339 _), if_pos rfl,
    Draft.read_line _ (by decide) hpid (inline_decimal _), if_neg (by decide), if_pos rfl,
    Draft.read_line _ (by decide) hversion h, if_neg (by decide), if_neg (by decide), if_pos rfl,
    parsePid?_decimal, String.ofList_toList]

/-! ### What was read from a text -/

/-- A draft of which every field was read from a line. -/
structure Draft.FromLines (d : Draft) : Prop where
  start : ∀ t ∈ d.start, ∃ s, Instant.ofRfc3339? s = some t
  version : ∀ v ∈ d.version, Inline v.toList

theorem Draft.FromLines.read {d : Draft} (hd : d.FromLines) {l : List Char} (hl : '\n' ∉ l) :
    (d.read l).FromLines := by
  rw [Draft.read]
  split
  next => exact hd
  next key value hsplit =>
    have hvalue : '\n' ∉ value := fun hmem =>
      hl (eq_of_splitOnce? hsplit ▸ List.mem_append_right _ (List.mem_cons_of_mem _ hmem))
    dsimp only
    split
    next => exact ⟨fun _ ht => ⟨_, ht⟩, hd.version⟩
    next =>
      split
      next => exact ⟨hd.start, hd.version⟩
      next =>
        split
        next =>
          refine ⟨hd.start, fun v hv => ?_⟩
          rw [← Option.some.inj hv, String.toList_ofList]
          exact inline_trim hvalue
        next => exact hd

/-- A marker that is read has a start that was read, and a version that stands in a line. -/
theorem fromLines_of_parse? {raw : List Char} {m : Marker} (h : parse? raw = some m) :
    (∃ s, Instant.ofRfc3339? s = some m.start) ∧ Inline m.version.toList := by
  have hread : ((lines raw).foldl Draft.read {}).FromLines :=
    List.foldlRecOn (lines raw) Draft.read ⟨fun _ ht => (nomatch ht), fun _ hv => nomatch hv⟩
      fun _ hd l hl => hd.read (not_mem_lines raw l hl)
  simp only [parse?, Draft.marker?, Option.bind_eq_bind, Option.bind_eq_some_iff] at h
  obtain ⟨start, hstart, _, -, version, hversion, heq⟩ := h
  cases heq
  exact ⟨hread.start _ hstart, hread.version _ hversion⟩

/-! ### Markers read back -/

/-- What is read from a marker's text, if its version stands in a line as it is: the marker with the
start that the text shows. -/
theorem parse?_toText {m : Marker} (h : Inline m.version.toList) :
    parse? m.toText =
      if 0 ≤ m.start.date.year ∧ m.start.date.year ≤ 9999 then
        some { m with start := m.start.shown }
      else none := by
  rw [parse?, draft_toText h]
  split
  next hyear =>
    rw [Instant.ofRfc3339?_toRfc3339 hyear.1 hyear.2]
    rfl
  next hyear =>
    rw [Instant.ofRfc3339?_toRfc3339_of_year hyear]
    rfl

/-- **Markers read back.**  Of the markers whose start lies in a year of four digits, exactly those
are read from their own text whose version has no line feed and no blank at either end, and whose
start has the nanoseconds of a leap second only in the last second of a minute. -/
theorem parse?_toText_iff {m : Marker} (hlow : 0 ≤ m.start.date.year)
    (hhigh : m.start.date.year ≤ 9999) :
    parse? m.toText = some m ↔
      ('\n' ∉ m.version.toList ∧ (∀ c ∈ m.version.toList.head?, isBlank c = false) ∧
        ∀ c ∈ m.version.toList.getLast?, isBlank c = false) ∧
      (1000000000 ≤ m.start.nanos → m.start.seconds % 60 = 59) := by
  rw [← Instant.shown_eq_self_iff]
  constructor
  · intro h
    have hinline := (fromLines_of_parse? h).2
    rw [parse?_toText hinline, if_pos ⟨hlow, hhigh⟩] at h
    exact ⟨⟨hinline.feed, hinline.head, hinline.last⟩, congrArg start (Option.some.inj h)⟩
  · rintro ⟨⟨hfeed, hhead, hlast⟩, hshown⟩
    rw [parse?_toText ⟨hfeed, hhead, hlast⟩, if_pos ⟨hlow, hhigh⟩, hshown]

/-- A marker of a leap second, with a version that imitates another field. -/
def leapMarker : Marker where
  start := ⟨1483228799, 1500000000, by decide⟩
  pid := 4294967295
  version := "PID: 1:\r2"

theorem parse?_toText_iff_leap :
    (0 ≤ leapMarker.start.date.year ∧ leapMarker.start.date.year ≤ 9999) ∧
      parse? leapMarker.toText = some leapMarker :=
  have h : Inline leapMarker.version.toList := by decide
  ⟨by decide, (parse?_toText_iff (by decide) (by decide)).2 ⟨⟨h.feed, h.head, h.last⟩, by decide⟩⟩

/-- A marker with the nanoseconds of a leap second in the middle of a minute is written with the
next second, and read with that. -/
theorem parse?_toText_midminute :
    let m : Marker := ⟨⟨30, 1500000000, by decide⟩, 4242, "2.4.1"⟩
    (0 ≤ m.start.date.year ∧ m.start.date.year ≤ 9999) ∧ Inline m.version.toList ∧
      m.toText = ("Session started: 1970-01-01T00:00:31.500+00:00\n" ++
        "PID: 4242\nVersion: 2.4.1\n").toList ∧
      parse? m.toText = some { m with start := ⟨31, 500000000, by decide⟩ } ∧
      parse? m.toText ≠ some m := by
  decide +kernel

/-- **Read markers read back.**  A marker that was read is read from its own text exactly if its
start lies in a year of four digits, and else nothing is; the year can only be one before or one
behind those, where an offset took it. -/
theorem parse?_toText_of_parse? {raw : List Char} {m : Marker} (h : parse? raw = some m) :
    (parse? m.toText =
        if 0 ≤ m.start.date.year ∧ m.start.date.year ≤ 9999 then some m else none) ∧
      -1 ≤ m.start.date.year ∧ m.start.date.year ≤ 10000 := by
  obtain ⟨⟨s, hs⟩, hversion⟩ := fromLines_of_parse? h
  have hread := parse?_toText hversion
  rw [Instant.shown_of_ofRfc3339? hs] at hread
  exact ⟨hread, Instant.year_of_ofRfc3339? hs⟩

/-- A marker text with an offset that takes its start into the year before. -/
def offsetText : List Char :=
  "Version: 1\nSession started: 2026-01-01t00:30:00.5+01:00\nVersion:\u00a02.4.1\r\nPID: +7".toList

/-- The marker that is read from it. -/
def offsetMarker : Marker where
  start := ⟨1767223800, 500000000, by decide⟩
  pid := 7
  version := "2.4.1"

theorem parse?_toText_of_parse?_offset :
    parse? offsetText = some offsetMarker ∧
      (parse? offsetMarker.toText =
          if 0 ≤ offsetMarker.start.date.year ∧ offsetMarker.start.date.year ≤ 9999 then
            some offsetMarker else none) ∧
        -1 ≤ offsetMarker.start.date.year ∧ offsetMarker.start.date.year ≤ 10000 :=
  have h : parse? offsetText = some offsetMarker := by decide +kernel
  ⟨h, parse?_toText_of_parse? h⟩

/-- A marker text that starts in the first hour of year 0, to the east of universal time. -/
def yearZeroText : List Char :=
  "Session started: 0000-01-01T00:00:00+01:00\nPID: 4242\nVersion: 2.4.1\n".toList

/-- The marker that is read from it starts in the year before, which is written with a sign, so
its own text is none of a marker. -/
theorem parse?_toText_yearZero :
    ∃ m, parse? yearZeroText = some m ∧ m.start.date = ⟨-1, 12, 31⟩ ∧ parse? m.toText = none := by
  refine ⟨⟨⟨-62167222800, 0, by decide⟩, 4242, "2.4.1"⟩, ?_⟩
  decide +kernel

end Vigil.Marker
