import Vigil.Proofs.Marker.Text

/-!
# Marker — the grammar of marker texts

A line gives a key a value with the first colon in it (`Gives`).  Of the lines with one key the
last one decides what its field is (`LastGives`), also if its value does not read.

* `foldl_read`: the lines leave in each field what the last one with its key gives.
* `parsePid?_eq_some_iff`: the texts that read as a process id.
* `parse?_congr`: a text is read by the values that its lines give the three keys, in the order of
  each key, and by nothing else in it.

**The grammar** (`parse?_grammar`): which texts a marker is read from, and what in them does not
matter.
-/

namespace Vigil.Marker
open Text Number

/-! ### What a line gives -/

/-- A line gives a key a value: the key stands before its first colon and the value behind it, the
blanks at their ends left out. -/
def Gives (line key value : List Char) : Prop :=
  ∃ front back, ':' ∉ front ∧ line = front ++ ':' :: back ∧ trim front = key ∧ trim back = value

/-- The value that a line gives a key, if it gives it one. -/
def value? (key line : List Char) : Option (List Char) :=
  (splitOnce? ':' line).bind fun parts =>
    if trim parts.1 = key then some (trim parts.2) else none

theorem value?_eq_some_iff {key line value : List Char} :
    value? key line = some value ↔ Gives line key value := by
  constructor
  · intro h
    obtain ⟨⟨front, back⟩, hsplit, hvalue⟩ := Option.bind_eq_some_iff.1 h
    obtain ⟨hkey, hvalue⟩ := Option.ite_none_right_eq_some.1 hvalue
    exact ⟨front, back, not_mem_of_splitOnce? hsplit, eq_of_splitOnce? hsplit, hkey,
      Option.some.inj hvalue⟩
  · rintro ⟨front, back, hcolon, rfl, hkey, hvalue⟩
    rw [value?, splitOnce?_append hcolon, Option.bind_some, if_pos hkey, hvalue]

theorem value?_eq_none_iff {key line : List Char} :
    value? key line = none ↔ ∀ value, ¬ Gives line key value := by
  simp only [Option.eq_none_iff_forall_ne_some, ne_eq, value?_eq_some_iff]

/-- The last line with a key gives it a value. -/
def LastGives (ls : List (List Char)) (key value : List Char) : Prop :=
  ∃ before line after, ls = before ++ line :: after ∧ Gives line key value ∧
    ∀ l ∈ after, ∀ v, ¬ Gives l key v

/-- The values that lines give a key, in their order. -/
def values (key : List Char) (ls : List (List Char)) : List (List Char) :=
  ls.filterMap (value? key)

theorem lastGives_iff {ls : List (List Char)} {key value : List Char} :
    LastGives ls key value ↔ (values key ls).getLast? = some value := by
  rw [values, List.getLast?_filterMap, List.findSome?_eq_some_iff]
  simp only [value?_eq_none_iff, value?_eq_some_iff]
  constructor
  · rintro ⟨before, line, after, rfl, hline, hafter⟩
    refine ⟨after.reverse, line, before.reverse, ?_, hline, fun l hl =>
      hafter l (List.mem_reverse.1 hl)⟩
    rw [List.reverse_append, List.reverse_cons, List.append_assoc, List.singleton_append]
  · rintro ⟨after, line, before, hls, hline, hafter⟩
    refine ⟨before.reverse, line, after.reverse, ?_, hline, fun l hl =>
      hafter l (List.mem_reverse.1 hl)⟩
    rw [← List.reverse_reverse ls, hls, List.reverse_append, List.reverse_cons, List.append_assoc,
      List.singleton_append]

theorem LastGives.unique {ls : List (List Char)} {key v w : List Char} (hv : LastGives ls key v)
    (hw : LastGives ls key w) : v = w :=
  Option.some.inj ((lastGives_iff.1 hv).symm.trans (lastGives_iff.1 hw))

/-! ### What the lines leave in a draft -/

/-- A line sets the field whose key it gives a value, and leaves the others. -/
theorem Draft.read_eq (d : Draft) (line : List Char) :
    d.read line =
      { start := (value? startKey line).elim d.start Instant.ofRfc3339?
        pid := (value? pidKey line).elim d.pid parsePid?
        version := (value? versionKey line).elim d.version (some <| String.ofList ·) } := by
  have hstartPid : startKey ≠ pidKey := by decide
  have hstartVersion : startKey ≠ versionKey := by decide
  have hpidVersion : pidKey ≠ versionKey := by decide
  simp only [Draft.read, value?]
  cases splitOnce? ':' line with
  | none => rfl
  | some parts =>
      obtain ⟨front, back⟩ := parts
      simp only [Option.bind_some]
      split
      next hkey => simp only [hkey, hstartPid, hstartVersion, if_false, Option.elim]
      next =>
        split
        next hkey => simp only [hkey, hpidVersion, if_false, Option.elim]
        next => split <;> rfl

/-- One more line decides about a field exactly if it has the key. -/
theorem elim_value? {β : Type} (key : List Char) (ls : List (List Char)) (line : List Char)
    (read : List Char → Option β) :
    (value? key line).elim ((values key ls).getLast?.bind read) read =
      (values key (ls ++ [line])).getLast?.bind read := by
  rw [values, values, List.filterMap_append]
  cases hvalue : value? key line with
  | none => rw [List.filterMap_cons_none hvalue, List.filterMap_nil, List.append_nil, Option.elim]
  | some value =>
      rw [List.filterMap_cons_some hvalue, List.filterMap_nil, List.getLast?_concat, Option.elim,
        Option.bind_some]

/-- The lines leave in each field what the last one with its key gives. -/
theorem foldl_read (ls : List (List Char)) :
    ls.foldl Draft.read {} =
      { start := (values startKey ls).getLast?.bind Instant.ofRfc3339?
        pid := (values pidKey ls).getLast?.bind parsePid?
        version := (values versionKey ls).getLast?.bind (some <| String.ofList ·) } := by
  induction ls using List.reverseRecOn with
  | nil => rfl
  | append_singleton ls line ih =>
      rw [List.foldl_concat, ih, Draft.read_eq, elim_value?, elim_value?, elim_value?]

/-! ### Process ids -/

/-- A text reads as a process id: the digits of its number, perhaps after a plus sign. -/
def ReadsAs (value : List Char) (pid : UInt32) : Prop :=
  ∃ digits, (value = digits ∨ value = '+' :: digits) ∧ digits ≠ [] ∧
    (∀ c ∈ digits, isDigit c = true) ∧ ofDigits digits = pid.toNat

/-- A number that is read from what is left after a plus sign. -/
theorem pid_of_digits_iff {digits : List Char} {pid : UInt32} :
    (if digits.isEmpty || !digits.all isDigit then none
      else if ofDigits digits < UInt32.size then some (UInt32.ofNat (ofDigits digits))
      else none) = some pid ↔
      digits ≠ [] ∧ (∀ c ∈ digits, isDigit c = true) ∧ ofDigits digits = pid.toNat := by
  rw [Option.ite_none_left_eq_some, Option.ite_none_right_eq_some, Option.some.injEq]
  simp only [Bool.or_eq_true, not_or, List.isEmpty_iff, Bool.not_eq_true', Bool.not_eq_false,
    List.all_eq_true, and_assoc]
  refine and_congr_right fun _ => and_congr_right fun _ => ⟨?_, ?_⟩
  · rintro ⟨hsize, rfl⟩
    exact (UInt32.toNat_ofNat_of_lt' hsize).symm
  · intro h
    rw [h, UInt32.ofNat_toNat]
    exact ⟨pid.toNat_lt_size, rfl⟩

theorem parsePid?_eq_some_iff {value : List Char} {pid : UInt32} :
    parsePid? value = some pid ↔ ReadsAs value pid := by
  by_cases hsign : ∃ rest, value = '+' :: rest
  · obtain ⟨rest, rfl⟩ := hsign
    rw [parsePid?]
    refine pid_of_digits_iff.trans ⟨fun h => ⟨rest, .inr rfl, h⟩, ?_⟩
    rintro ⟨digits, rfl | heq, hne, hall, hvalue⟩
    · exact absurd (hall _ List.mem_cons_self) (by decide)
    · cases heq
      exact ⟨hne, hall, hvalue⟩
  · rw [parsePid?]
    · refine pid_of_digits_iff.trans ⟨fun h => ⟨value, .inl rfl, h⟩, ?_⟩
      rintro ⟨digits, rfl | rfl, hread⟩
      · exact hread
      · exact absurd ⟨digits, rfl⟩ hsign
    · exact fun rest h => hsign ⟨rest, h⟩

/-! ### The grammar -/

/-- The keys of the fields. -/
def keys : List (List Char) := [startKey, pidKey, versionKey]

/-- A draft is a marker's if every field has the marker's value. -/
theorem Draft.marker?_eq_some_iff {d : Draft} {m : Marker} :
    d.marker? = some m ↔
      d.start = some m.start ∧ d.pid = some m.pid ∧ d.version = some m.version := by
  obtain ⟨start, pid, version⟩ := m
  simp only [Draft.marker?, Option.bind_eq_bind, Option.bind_eq_some_iff, Option.some.injEq,
    Marker.mk.injEq]
  constructor
  · rintro ⟨_, hstart, _, hpid, _, hversion, rfl, rfl, rfl⟩
    exact ⟨hstart, hpid, hversion⟩
  · rintro ⟨hstart, hpid, hversion⟩
    exact ⟨_, hstart, _, hpid, _, hversion, rfl, rfl, rfl⟩

/-- A marker is read if the last line with each key gives its field's value. -/
theorem parse?_eq_some_iff {raw : List Char} {m : Marker} :
    parse? raw = some m ↔
      (∃ value, LastGives (lines raw) startKey value ∧
        Instant.ofRfc3339? value = some m.start) ∧
      (∃ value, LastGives (lines raw) pidKey value ∧ ReadsAs value m.pid) ∧
      LastGives (lines raw) versionKey m.version.toList := by
  have hversion : ∀ o : Option (List Char),
      o.bind (some <| String.ofList ·) = some m.version ↔ o = some m.version.toList := fun o => by
    cases o with
    | none => exact ⟨nofun, nofun⟩
    | some version =>
        rw [Option.bind_some, Option.some.injEq, Option.some.injEq, ← String.toList_inj,
          String.toList_ofList]
  simp only [lastGives_iff, ← parsePid?_eq_some_iff, ← Option.bind_eq_some_iff]
  rw [parse?, foldl_read, Draft.marker?_eq_some_iff, hversion]

/-- A text is read by the values that its lines give the keys of the fields. -/
theorem parse?_congr {raw raw' : List Char}
    (h : ∀ key ∈ keys, values key (lines raw') = values key (lines raw)) :
    parse? raw' = parse? raw := by
  simp only [keys, List.forall_mem_cons] at h
  obtain ⟨hstart, hpid, hversion, -⟩ := h
  rw [parse?, parse?, foldl_read, foldl_read, hstart, hpid, hversion]

/-- A line that gives none of the keys a value does not matter. -/
theorem values_insert {key line : List Char} (h : ∀ value, ¬ Gives line key value)
    (before after : List (List Char)) :
    values key (before ++ line :: after) = values key (before ++ after) := by
  rw [values, values, List.filterMap_append, List.filterMap_append,
    List.filterMap_cons_none (value?_eq_none_iff.2 h)]

/-- The order of two lines does not matter of which at most one gives the key a value. -/
theorem values_swap {key first second : List Char}
    (h : ∀ v w, Gives first key v → ¬ Gives second key w) (before after : List (List Char)) :
    values key (before ++ second :: first :: after) =
      values key (before ++ first :: second :: after) := by
  cases hfirst : value? key first with
  | none => simp only [values, List.filterMap_append, List.filterMap_cons, hfirst]
  | some v =>
      have hsecond : value? key second = none :=
        value?_eq_none_iff.2 fun w => h v w (value?_eq_some_iff.1 hfirst)
      simp only [values, List.filterMap_append, List.filterMap_cons, hsecond]

/-- **The grammar of marker texts.**  A marker is read from a text, broken into lines, exactly if
the last line with each key gives the value of its field.  So neither lines that give none of the
keys a value matter, nor the order of neighbours that do not give the same key one, nor anything but
the values of each key in their order; and a start or a process id that does not read takes back an
earlier one that did. -/
theorem parse?_grammar (raw : List Char) :
    Broken raw (lines raw) ∧
    (∀ m, parse? raw = some m ↔
      (∃ value, LastGives (lines raw) startKey value ∧
        Instant.ofRfc3339? value = some m.start) ∧
      (∃ value, LastGives (lines raw) pidKey value ∧ ReadsAs value m.pid) ∧
      LastGives (lines raw) versionKey m.version.toList) ∧
    (∀ raw' before line after, lines raw = before ++ after → lines raw' = before ++ line :: after →
      (∀ key ∈ keys, ∀ value, ¬ Gives line key value) → parse? raw' = parse? raw) ∧
    (∀ raw' before first second after, lines raw = before ++ first :: second :: after →
      lines raw' = before ++ second :: first :: after →
      (∀ key ∈ keys, ∀ v w, Gives first key v → ¬ Gives second key w) →
      parse? raw' = parse? raw) ∧
    (∀ raw', (∀ key ∈ keys, values key (lines raw') = values key (lines raw)) →
      parse? raw' = parse? raw) ∧
    (∀ value, LastGives (lines raw) startKey value → Instant.ofRfc3339? value = none →
      parse? raw = none) ∧
    (∀ value, LastGives (lines raw) pidKey value → (∀ pid, ¬ ReadsAs value pid) →
      parse? raw = none) := by
  refine ⟨lines_eq_iff.1 rfl, fun m => parse?_eq_some_iff, ?insert, ?swap, fun _ => parse?_congr,
    ?start, ?pid⟩
  case insert =>
    intro raw' before line after hraw hraw' hline
    refine parse?_congr fun key hkey => ?_
    rw [hraw, hraw', values_insert (hline key hkey)]
  case swap =>
    intro raw' before first second after hraw hraw' hlines
    refine parse?_congr fun key hkey => ?_
    rw [hraw, hraw', values_swap (hlines key hkey)]
  case start =>
    intro value hlast hvalue
    refine Option.eq_none_iff_forall_ne_some.2 fun m hm => ?_
    obtain ⟨⟨value', hlast', hvalue'⟩, -⟩ := parse?_eq_some_iff.1 hm
    obtain rfl := hlast.unique hlast'
    rw [hvalue] at hvalue'
    cases hvalue'
  case pid =>
    intro value hlast hvalue
    refine Option.eq_none_iff_forall_ne_some.2 fun m hm => ?_
    obtain ⟨-, ⟨value', hlast', hvalue'⟩, -⟩ := parse?_eq_some_iff.1 hm
    obtain rfl := hlast.unique hlast'
    exact hvalue _ hvalue'

/-- A marker text in which later lines take back what earlier ones gave: the ending of a line, a
key without a field, blanks and colons are among them. -/
def patchedText : List Char :=
  ("PID: x\r\nSession started: 2026-03-14T09:26:53Z\nHost: a\n\n" ++
    "Version: 1\n PID : +4242\nVersion:\t2: \r\n").toList

theorem parse?_grammar_patched :
    let m : Marker := ⟨⟨1773480413, 0, by decide⟩, 4242, "2:"⟩
    parse? patchedText = some m ∧
      parse? (patchedText ++ "Host: b\n".toList) = parse? patchedText ∧
      parse? (patchedText ++ "PID: -1\n".toList) = none := by
  intro m
  obtain ⟨-, hread, hinsert, -⟩ := parse?_grammar patchedText
  obtain ⟨-, -, -, -, -, -, hpid⟩ := parse?_grammar (patchedText ++ "PID: -1\n".toList)
  refine ⟨(hread m).2 ⟨?start, ?pid, ?version⟩, ?other, ?unread⟩
  case start =>
    exact ⟨"2026-03-14T09:26:53Z".toList, lastGives_iff.2 (by decide +kernel), by decide +kernel⟩
  case pid =>
    exact ⟨"+4242".toList, lastGives_iff.2 (by decide +kernel),
      parsePid?_eq_some_iff.1 (by decide +kernel)⟩
  case version => exact lastGives_iff.2 (by decide +kernel)
  case other =>
    refine hinsert _ (lines patchedText) "Host: b".toList [] (List.append_nil _).symm
      (by decide +kernel) fun key hkey => value?_eq_none_iff.1 ?_
    revert key
    decide +kernel
  case unread =>
    have hvalue : parsePid? "-1".toList = none := by decide
    refine hpid "-1".toList (lastGives_iff.2 (by decide +kernel)) fun pid hreads => ?_
    rw [parsePid?_eq_some_iff.2 hreads] at hvalue
    cases hvalue

end Vigil.Marker
