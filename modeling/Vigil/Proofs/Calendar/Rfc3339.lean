import Vigil.Calendar.Rfc3339
import Vigil.Proofs.Calendar.Date
import Vigil.Proofs.Number.Digits

/-!
# Calendar — RFC 3339 texts read back

What an instant was written as, with a numeric offset, is read if its year has four digits
(`ofRfc3339?_toRfc3339`); other years are written with a sign, which no reader takes
(`ofRfc3339?_toRfc3339_of_year`).  What is read is the instant that the text shows (`shown`): the
next second, if there are more nanoseconds than a second has and it is not the last of its minute.
It can lie a day before or after the date in the text, since that may have any offset, and so in
the year before 0 or after 9999 (`year_of_ofRfc3339?`).
-/

namespace Vigil.Instant
open Number

/-! ### The parts of a text -/

/-- A part that is read, and what is done with it. -/
theorem bind_of_some {β γ : Type} {o : Option β} {b : β} (h : o = some b) (f : β → Option γ) :
    (o >>= f) = f b := by
  rw [h]
  rfl

theorem expect?_self (c : Char) (s : List Char) : expect? c (c :: s) = some s := if_pos rfl

/-- A year with a sign is not read. -/
theorem takeDigits?_yearText_of_year {year : Int} (h : ¬ (0 ≤ year ∧ year ≤ 9999))
    (rest : List Char) : takeDigits? 4 (yearText year ++ rest) = none := by
  rw [yearText, if_neg (by simpa using h)]
  refine Option.eq_none_iff_forall_ne_some.2 fun ⟨n, s⟩ hread => ?_
  have hsign := (takeDigits?_eq_some hread).1 _ List.mem_cons_self
  split at hsign <;> exact absurd hsign (by decide)

/-- The digits of a fraction are read up to what follows them. -/
theorem takeFraction?_fixed {width n : Nat} (hpos : 0 < width) (hwidth : width ≤ 9)
    (h : n < 10 ^ width) {rest : List Char} (hrest : rest.takeWhile isDigit = []) :
    takeFraction? (fixed width n ++ rest) = some (n * 10 ^ (9 - width), rest) := by
  have hdigits : ∀ c ∈ fixed width n, isDigit c = true := fun _ hc => isDigit_of_mem_fixed hc
  have hdrop : rest.dropWhile isDigit = rest := by
    have hsplit := List.takeWhile_append_dropWhile (p := isDigit) (l := rest)
    rwa [hrest] at hsplit
  have htake : (fixed width n).take 9 = fixed width n :=
    List.take_of_length_le (Nat.le_trans (Nat.le_of_eq (length_fixed width n)) hwidth)
  have hne : (fixed width n).isEmpty = false :=
    List.isEmpty_eq_false_iff.2 (List.length_pos_iff.1 ((length_fixed width n).symm ▸ hpos))
  simp only [takeFraction?, List.takeWhile_append_of_pos hdigits, hrest, List.append_nil, hne,
    List.dropWhile_append_of_pos hdigits, hdrop, htake, length_fixed, ofDigits_fixed,
    Nat.mod_eq_of_lt h]
  rfl

/-- A fraction is nothing, or a point and digits that are worth the nanoseconds. -/
theorem fraction_cases {nanos : Nat} (h : nanos < 1000000000) :
    nanos = 0 ∧ fraction nanos = [] ∨
      ∃ width n, 0 < width ∧ width ≤ 9 ∧ n < 10 ^ width ∧ n * 10 ^ (9 - width) = nanos ∧
        fraction nanos = '.' :: fixed width n := by
  rw [fraction]
  split
  next hzero => exact Or.inl ⟨hzero, rfl⟩
  next =>
    refine Or.inr ?_
    split
    next hmillis =>
      exact ⟨3, nanos / 1000000, by decide, by decide, by omega,
        Nat.div_mul_cancel (Nat.dvd_of_mod_eq_zero hmillis), rfl⟩
    next =>
      split
      next hmicros =>
        exact ⟨6, nanos / 1000, by decide, by decide, by omega,
          Nat.div_mul_cancel (Nat.dvd_of_mod_eq_zero hmicros), rfl⟩
      next => exact ⟨9, nanos, by decide, by decide, h, Nat.mul_one nanos, rfl⟩

/-- The nanoseconds are read, whichever way they were written. -/
theorem read_fraction {nanos : Nat} (h : nanos < 1000000000) :
    (match fraction nanos ++ numericZone with
      | '.' :: rest => takeFraction? rest
      | _ => some (0, fraction nanos ++ numericZone)) = some (nanos, numericZone) := by
  rcases fraction_cases h with ⟨rfl, heq⟩ | ⟨width, n, hpos, hwidth, hn, hvalue, heq⟩
  · rw [heq]
    rfl
  · rw [heq, List.cons_append]
    exact (takeFraction?_fixed hpos hwidth hn (by decide)).trans (by rw [hvalue])

/-! ### Writing and reading -/

/-- What is read from fields of fixed width and what follows them, a fraction and universal time. -/
theorem ofRfc3339?_fields {year : Int} {month day hour minute second nanos : Nat}
    {tail zone : List Char} (hlow : 0 ≤ year) (hhigh : year ≤ 9999) (hmonth : month < 10 ^ 2)
    (hday : day < 10 ^ 2) (hhour : hour < 10 ^ 2) (hminute : minute < 10 ^ 2)
    (hsecond : second < 10 ^ 2)
    (htail : (match tail with
      | '.' :: rest => takeFraction? rest
      | _ => some (0, tail)) = some (nanos, zone))
    (hzone : takeZone? zone = some (0, [])) :
    ofRfc3339? (fixed 4 year.toNat ++ '-' :: fixed 2 month ++ '-' :: fixed 2 day ++
        'T' :: fixed 2 hour ++ ':' :: fixed 2 minute ++ ':' :: fixed 2 second ++ tail) =
      if (⟨year, month, day⟩ : Date).valid && hour ≤ 23 && minute ≤ 59 && second ≤ 60 then
        ofUnix? ((⟨year, month, day⟩ : Date).days * 86400 +
            (hour * 3600 + minute * 60 + min second 59 : Nat))
          (if second = 60 then nanos + 1000000000 else nanos)
      else none := by
  simp only [List.append_assoc, List.cons_append]
  refine (bind_of_some (takeDigits?_fixed (by omega) _) _).trans ?_
  refine (bind_of_some (expect?_self '-' _) _).trans ?_
  refine (bind_of_some (takeDigits?_fixed hmonth _) _).trans ?_
  refine (bind_of_some (expect?_self '-' _) _).trans ?_
  refine (bind_of_some (takeDigits?_fixed hday _) _).trans ?_
  refine (bind_of_some (if_pos rfl) _).trans ?_
  refine (bind_of_some (takeDigits?_fixed hhour _) _).trans ?_
  refine (bind_of_some (expect?_self ':' _) _).trans ?_
  refine (bind_of_some (takeDigits?_fixed hminute _) _).trans ?_
  refine (bind_of_some (expect?_self ':' _) _).trans ?_
  refine (bind_of_some (takeDigits?_fixed hsecond _) _).trans ?_
  refine (bind_of_some htail _).trans ?_
  refine (bind_of_some hzone _).trans ?_
  simp only [List.isEmpty_nil, Bool.true_and, Int.toNat_of_nonneg hlow, Int.zero_mul, Int.sub_zero]

/-- What is read from a text, by the parts that it was written from. -/
theorem ofRfc3339?_parts {year : Int} {month day hour minute second nanos : Nat}
    (hlow : 0 ≤ year) (hhigh : year ≤ 9999) (hmonth : month < 10 ^ 2) (hday : day < 10 ^ 2)
    (hhour : hour < 10 ^ 2) (hminute : minute < 10 ^ 2) (hsecond : second < 10 ^ 2)
    (hnanos : nanos < 1000000000) :
    ofRfc3339? (yearText year ++ '-' :: fixed 2 month ++ '-' :: fixed 2 day ++
        'T' :: fixed 2 hour ++ ':' :: fixed 2 minute ++ ':' :: fixed 2 second ++
        fraction nanos ++ numericZone) =
      if (⟨year, month, day⟩ : Date).valid && hour ≤ 23 && minute ≤ 59 && second ≤ 60 then
        ofUnix? ((⟨year, month, day⟩ : Date).days * 86400 +
            (hour * 3600 + minute * 60 + min second 59 : Nat))
          (if second = 60 then nanos + 1000000000 else nanos)
      else none := by
  rw [yearText, if_pos (by simp [hlow, hhigh]), List.append_assoc]
  exact ofRfc3339?_fields hlow hhigh hmonth hday hhour hminute hsecond (read_fraction hnanos) rfl

/-- What the clock shows are the seconds of the day. -/
theorem clock_eq {t : Instant} {hour minute second : Nat} (h : t.clock = (hour, minute, second)) :
    hour < 24 ∧ minute < 60 ∧ second < 60 ∧
      ((hour * 3600 + minute * 60 + second : Nat) : Int) = t.seconds % 86400 := by
  simp only [clock, secondOfDay, Prod.mk.injEq] at h
  omega

/-- The instant that a text shows.  A second with more nanoseconds than it has is written as the
next one, which is a leap second only at the end of a minute. -/
def shown (t : Instant) : Instant :=
  if 1000000000 ≤ t.nanos ∧ t.seconds % 60 ≠ 59 then
    ⟨t.seconds + 1, t.nanos - 1000000000, Nat.lt_of_le_of_lt (Nat.sub_le _ _) t.nanos_lt⟩
  else t

/-- A text shows the instant itself unless that has too many nanoseconds. -/
theorem shown_eq_self_iff {t : Instant} :
    t.shown = t ↔ (1000000000 ≤ t.nanos → t.seconds % 60 = 59) := by
  rw [shown]
  split
  next h =>
    refine ⟨fun heq => ?_, fun hlast => absurd (hlast h.1) h.2⟩
    have hseconds : t.seconds + 1 = t.seconds := congrArg seconds heq
    omega
  next h => exact ⟨fun _ => by omega, fun _ => rfl⟩

/-- What is shown has no more nanoseconds than a second has, but for a leap second. -/
theorem leap_shown (t : Instant) (h : 1000000000 ≤ t.shown.nanos) : t.shown.seconds % 60 = 59 := by
  have hnanos := t.nanos_lt
  revert h
  rw [shown]
  split
  next => exact fun h => by dsimp only at h; omega
  next h => exact fun hleap => by omega

/-- The next second is on the same day. -/
theorem date_shown (t : Instant) : t.shown.date = t.date := by
  have hday : t.shown.seconds / 86400 = t.seconds / 86400 := by
    rw [shown]
    split
    next => dsimp only; omega
    next => rfl
  rw [date, date, hday]

/-- An instant is what the clock shows at its own time. -/
theorem ofUnix?_self {t : Instant} (hlow : 0 ≤ t.date.year) (hhigh : t.date.year ≤ 9999)
    (hleap : 1000000000 ≤ t.nanos → t.seconds % 60 = 59) :
    ofUnix? t.seconds t.nanos = some t := by
  have hfirst : years.1 ≤ (Date.ofDays (t.seconds / 86400)).year :=
    Int.le_trans (by decide) hlow
  have hlast : (Date.ofDays (t.seconds / 86400)).year ≤ years.2 :=
    Int.le_trans hhigh (by decide)
  rw [ofUnix?, if_pos (Bool.and_eq_true_iff.2 ⟨decide_eq_true hfirst, decide_eq_true hlast⟩),
    dif_pos ⟨t.nanos_lt, hleap⟩]

/-- **Texts read back.**  From the text of an instant whose year has four digits the instant is
read that it shows. -/
theorem ofRfc3339?_toRfc3339 {t : Instant} (hlow : 0 ≤ t.date.year) (hhigh : t.date.year ≤ 9999) :
    ofRfc3339? (t.toRfc3339 numericZone) = some t.shown := by
  have hvalid : t.date.valid = true := Date.valid_ofDays _
  have hdays : (⟨t.date.year, t.date.month, t.date.day⟩ : Date).days = t.seconds / 86400 :=
    Date.days_ofDays _
  have hself : ofUnix? t.shown.seconds t.shown.nanos = some t.shown :=
    ofUnix?_self (t.date_shown.symm ▸ hlow) (t.date_shown.symm ▸ hhigh) t.leap_shown
  obtain ⟨hmonth, hday⟩ := Date.valid_le hvalid
  obtain ⟨⟨hour, minute, second⟩, hclock⟩ : ∃ c, t.clock = c := ⟨_, rfl⟩
  obtain ⟨hhour, hminute, hsecond, htime⟩ := clock_eq hclock
  have hparts : ∀ s ≤ 60, ((⟨t.date.year, t.date.month, t.date.day⟩ : Date).valid && hour ≤ 23 &&
      minute ≤ 59 && s ≤ 60) = true := fun s hs => by
    simp only [hvalid, Bool.true_and, Bool.and_eq_true, decide_eq_true_eq]
    omega
  rw [← hself, toRfc3339, hclock]
  by_cases hleap : 1000000000 ≤ t.nanos
  · have hnanos := t.nanos_lt
    simp only [hleap, if_true]
    rw [ofRfc3339?_parts hlow hhigh (by omega) (by omega) (by omega) (by omega) (by omega)
      (by omega), if_pos (hparts _ (by omega))]
    by_cases hlast : second = 59
    · -- A leap second is written as the second 60, and comes after the second 59.
      rw [shown_eq_self_iff.2 fun _ => by omega, if_pos (by omega)]
      congr 1 <;> omega
    · -- Any other second is written as the next one.
      have hnext : t.shown.seconds = t.seconds + 1 ∧ t.shown.nanos = t.nanos - 1000000000 := by
        rw [shown, if_pos ⟨hleap, by omega⟩]
        exact ⟨rfl, rfl⟩
      rw [hnext.1, hnext.2, if_neg (by omega)]
      congr 1
      omega
  · have hnanos := Nat.lt_of_not_le hleap
    simp only [hleap, if_false]
    rw [ofRfc3339?_parts hlow hhigh (by omega) (by omega) (by omega) (by omega) (by omega) hnanos,
      if_pos (hparts _ (by omega)), if_neg (by omega), shown_eq_self_iff.2 fun h => absurd h hleap]
    congr 1
    omega

/-- An instant of another year is not read from its text. -/
theorem ofRfc3339?_toRfc3339_of_year {t : Instant} (h : ¬ (0 ≤ t.date.year ∧ t.date.year ≤ 9999)) :
    ofRfc3339? (t.toRfc3339 numericZone) = none := by
  simp only [toRfc3339, List.append_assoc]
  rw [ofRfc3339?, takeDigits?_yearText_of_year h]
  rfl

/-! ### The year that is read -/

/-- An offset is less than a day. -/
theorem takeZone?_eq_some {s rest : List Char} {zone : Int} (h : takeZone? s = some (zone, rest)) :
    -1440 < zone ∧ zone < 1440 := by
  rw [takeZone?.eq_def] at h
  cases s with
  | nil => nomatch h
  | cons c s =>
    simp only at h
    split at h
    next =>
      cases h
      decide
    next =>
      split at h
      next =>
        simp only [Option.bind_eq_bind, Option.bind_eq_some_iff, Prod.exists] at h
        obtain ⟨hours, _, -, _, -, minutes, _, -, hzone⟩ := h
        split at hzone
        next hbounds =>
          simp only [Bool.and_eq_true, decide_eq_true_eq] at hbounds
          cases hzone
          split <;> omega
        next => nomatch hzone
      next => nomatch h

/-- What a clock shows is at the seconds it was asked for, and a text shows it as it is. -/
theorem ofUnix?_eq_some {seconds : Int} {nanos : Nat} {t : Instant}
    (h : ofUnix? seconds nanos = some t) : t.seconds = seconds ∧ t.shown = t := by
  rw [ofUnix?] at h
  split at h
  next =>
    split at h
    next hnanos =>
      cases h
      exact ⟨rfl, shown_eq_self_iff.2 hnanos.2⟩
    next => nomatch h
  next => nomatch h

/-- What a text says from which an instant was read: a date whose year has four digits, a second of
that day, and the minutes of an offset.  The text of that instant shows itself. -/
theorem ofRfc3339?_eq_some {s : List Char} {t : Instant} (h : ofRfc3339? s = some t) :
    ∃ (d : Date) (second : Nat) (zone : Int), d.valid = true ∧ 0 ≤ d.year ∧ d.year ≤ 9999 ∧
      second < 86400 ∧ -1440 < zone ∧ zone < 1440 ∧
      t.seconds = d.days * 86400 + second - zone * 60 ∧ t.shown = t := by
  rw [ofRfc3339?] at h
  obtain ⟨⟨year, _⟩, hyear, h⟩ := Option.bind_eq_some_iff.1 h
  obtain ⟨_, -, h⟩ := Option.bind_eq_some_iff.1 h
  obtain ⟨⟨month, _⟩, -, h⟩ := Option.bind_eq_some_iff.1 h
  obtain ⟨_, -, h⟩ := Option.bind_eq_some_iff.1 h
  obtain ⟨⟨day, _⟩, -, h⟩ := Option.bind_eq_some_iff.1 h
  obtain ⟨_, -, h⟩ := Option.bind_eq_some_iff.1 h
  obtain ⟨⟨hour, _⟩, -, h⟩ := Option.bind_eq_some_iff.1 h
  obtain ⟨_, -, h⟩ := Option.bind_eq_some_iff.1 h
  obtain ⟨⟨minute, _⟩, -, h⟩ := Option.bind_eq_some_iff.1 h
  obtain ⟨_, -, h⟩ := Option.bind_eq_some_iff.1 h
  obtain ⟨⟨second, _⟩, -, h⟩ := Option.bind_eq_some_iff.1 h
  obtain ⟨⟨nanos, _⟩, -, h⟩ := Option.bind_eq_some_iff.1 h
  obtain ⟨⟨zone, _⟩, hzone, h⟩ := Option.bind_eq_some_iff.1 h
  have hdigits := (takeDigits?_eq_some hyear).2
  obtain ⟨hlow, hhigh⟩ := takeZone?_eq_some hzone
  dsimp only at h
  split at h
  next hparts =>
    simp only [Bool.and_eq_true, decide_eq_true_eq] at hparts
    obtain ⟨⟨⟨⟨-, hvalid⟩, hhour⟩, hminute⟩, hsecond⟩ := hparts
    exact ⟨⟨year, month, day⟩, _, zone, hvalid, Int.natCast_nonneg year,
      Int.lt_add_one_iff.1 (Int.ofNat_lt.2 hdigits), by omega, hlow, hhigh, ofUnix?_eq_some h⟩
  next => nomatch h

/-- **The year of a text.**  An offset takes an instant at most into the year before the first
one that is written with four digits, or into the year after the last. -/
theorem year_of_ofRfc3339? {s : List Char} {t : Instant} (h : ofRfc3339? s = some t) :
    -1 ≤ t.date.year ∧ t.date.year ≤ 10000 := by
  obtain ⟨d, second, zone, hvalid, hlow, hhigh, hsecond, hwest, heast, heq, -⟩ :=
    ofRfc3339?_eq_some h
  -- Less than a day in either direction leads to a day before or after at most.
  obtain ⟨hbefore, hafter⟩ :=
    @Date.year_ofDays_add d hvalid (t.seconds / 86400) (by omega) (by omega)
  rw [date]
  omega

/-- An instant that was read is the one that its text shows. -/
theorem shown_of_ofRfc3339? {s : List Char} {t : Instant} (h : ofRfc3339? s = some t) :
    t.shown = t := by
  obtain ⟨_, _, _, -, -, -, -, -, -, -, hshown⟩ := ofRfc3339?_eq_some h
  exact hshown

end Vigil.Instant
