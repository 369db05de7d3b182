import Vigil.Fault.Report
import Vigil.Proofs.Calendar.Rfc3339

/-!
# Calendar — the times of report headers

The header of a report holds its time cut to the millisecond (`toMillisecond`), in fields of fixed
width.

* `ofRfc3339?_toHeader`: what a reader of markers makes of it.
* `lt_of_toHeader_lt`: the texts are ordered as the times are, since the fields stand in the order
  of their worth and dates are numbered in their own (`Date.Before.days_lt`).

**Headers carry the time** (`toHeader_faithful`): length, meaning and order of these texts.
-/

namespace Vigil.Instant
open Number Fault

/-- The instant rounded down to the millisecond; a leap second stands still at the last one of the
second before it. -/
def toMillisecond (t : Instant) : Instant where
  seconds := t.seconds
  nanos := if 1000000000 ≤ t.nanos then 999000000 else t.nanos / 1000000 * 1000000
  nanos_lt := by split <;> omega

/-- The year of a header has four digits. -/
theorem headerYear_eq {year : Int} (hlow : 0 ≤ year) (hhigh : year ≤ 9999) :
    headerYear year = fixed 4 year.toNat := by
  obtain ⟨n, rfl⟩ := Int.eq_ofNat_of_zero_le hlow
  exact padded_eq_fixed (by decide) (by omega)

/-- The text of a header, field by field. -/
theorem toHeader_eq {t : Instant} {hour minute second : Nat} (hlow : 0 ≤ t.date.year)
    (hhigh : t.date.year ≤ 9999) (hclock : t.clock = (hour, minute, second)) :
    t.toHeader = fixed 4 t.date.year.toNat ++ '-' :: fixed 2 t.date.month ++
      '-' :: fixed 2 t.date.day ++ 'T' :: fixed 2 hour ++ ':' :: fixed 2 minute ++
      ':' :: fixed 2 second ++ ('.' :: fixed 3 (min (t.nanos / 1000000) 999) ++ letterZone) := by
  rw [toHeader, hclock, headerYear_eq hlow hhigh]
  exact List.append_assoc _ _ _

theorem length_toHeader {t : Instant} (hlow : 0 ≤ t.date.year) (hhigh : t.date.year ≤ 9999) :
    t.toHeader.length = 24 := by
  rw [toHeader_eq hlow hhigh rfl]
  simp only [List.length_append, List.length_cons, length_fixed]
  rfl

/-- The header's time is read back, to the millisecond. -/
theorem ofRfc3339?_toHeader {t : Instant} (hlow : 0 ≤ t.date.year) (hhigh : t.date.year ≤ 9999) :
    ofRfc3339? t.toHeader = some t.toMillisecond := by
  have hvalid : t.date.valid = true := Date.valid_ofDays _
  have hdays : (⟨t.date.year, t.date.month, t.date.day⟩ : Date).days = t.seconds / 86400 :=
    Date.days_ofDays _
  obtain ⟨hmonth, hday⟩ := Date.valid_le hvalid
  obtain ⟨⟨hour, minute, second⟩, hclock⟩ : ∃ c, t.clock = c := ⟨_, rfl⟩
  obtain ⟨hhour, hminute, hsecond, htime⟩ := clock_eq hclock
  have hfraction : takeFraction? (fixed 3 (min (t.nanos / 1000000) 999) ++ letterZone) =
      some (min (t.nanos / 1000000) 999 * 10 ^ (9 - 3), letterZone) :=
    takeFraction?_fixed (by decide) (by decide) (by omega) (by decide)
  have hnanos : min (t.nanos / 1000000) 999 * 10 ^ (9 - 3) = t.toMillisecond.nanos := by
    simp only [toMillisecond]
    split <;> omega
  have hleap : 1000000000 ≤ t.toMillisecond.nanos → t.seconds % 60 = 59 := fun h => by omega
  have hself : ofUnix? t.seconds t.toMillisecond.nanos = some t.toMillisecond :=
    @ofUnix?_self t.toMillisecond hlow hhigh hleap
  rw [toHeader_eq hlow hhigh hclock]
  refine Eq.trans (ofRfc3339?_fields hlow hhigh (by omega) (by omega) (by omega) (by omega)
    (by omega) hfraction rfl) ?_
  rw [if_pos, if_neg (by omega), hnanos, ← hself]
  · congr 1
    omega
  · simp only [hvalid, Bool.true_and, Bool.and_eq_true, decide_eq_true_eq]
    omega

/-- The texts are ordered as the times. -/
theorem lt_of_toHeader_lt {t u : Instant} (htlow : 0 ≤ t.date.year) (hthigh : t.date.year ≤ 9999)
    (hulow : 0 ≤ u.date.year) (huhigh : u.date.year ≤ 9999) (h : u.toHeader < t.toHeader) :
    u.seconds < t.seconds ∨ u.seconds = t.seconds ∧ u.nanos < t.nanos := by
  have htvalid : t.date.valid = true := Date.valid_ofDays _
  have huvalid : u.date.valid = true := Date.valid_ofDays _
  have htdays : t.date.days = t.seconds / 86400 := Date.days_ofDays _
  have hudays : u.date.days = u.seconds / 86400 := Date.days_ofDays _
  obtain ⟨htmonth, htday⟩ := Date.valid_le htvalid
  obtain ⟨humonth, huday⟩ := Date.valid_le huvalid
  obtain ⟨⟨hour, minute, second⟩, htclock⟩ : ∃ c, t.clock = c := ⟨_, rfl⟩
  obtain ⟨⟨hour', minute', second'⟩, huclock⟩ : ∃ c, u.clock = c := ⟨_, rfl⟩
  obtain ⟨hthour, htminute, htsecond, httime⟩ := clock_eq htclock
  obtain ⟨huhour, huminute, husecond, hutime⟩ := clock_eq huclock
  rw [toHeader_eq htlow hthigh htclock, toHeader_eq hulow huhigh huclock] at h
  simp only [List.append_assoc, List.cons_append] at h
  rw [fixed_append_lt_iff (by omega) (by omega), List.cons_lt_cons_self,
    fixed_append_lt_iff (by omega) (by omega), List.cons_lt_cons_self,
    fixed_append_lt_iff (by omega) (by omega), List.cons_lt_cons_self,
    fixed_append_lt_iff (by omega) (by omega), List.cons_lt_cons_self,
    fixed_append_lt_iff (by omega) (by omega), List.cons_lt_cons_self,
    fixed_append_lt_iff (by omega) (by omega), List.cons_lt_cons_self,
    fixed_append_lt_iff (by omega) (by omega)] at h
  have hzone : ¬ letterZone < letterZone := List.lt_irrefl _
  by_cases hbefore : u.date.Before t.date
  · have hlt := hbefore.days_lt huvalid htvalid
    omega
  · rw [Date.Before] at hbefore
    -- On one day the clock decides, and within a second the milliseconds.
    have hsame : u.date.year = t.date.year ∧ u.date.month = t.date.month ∧
        u.date.day = t.date.day := by omega
    have hday : u.date.days = t.date.days := by
      rw [Date.days_eq, Date.days_eq, hsame.1, hsame.2.1, hsame.2.2]
    simp only [hsame, hzone, Nat.lt_irrefl, false_or, or_false, and_false, true_and] at h
    omega

/-- Where the time stands in a report: on its second line, behind the mark of a header. -/
theorem block_eq_append_toHeader (t : Instant) (fault : Fault) (statistics : List (List Char)) :
    ∃ rest, Report.block t fault statistics = Report.separator ++ t.toHeader ++ '\n' :: rest := by
  refine ⟨(Report.delimiter :: ['\n'] :: "Fault: ".toList :: fault.text :: ['\n'] :: ['\n'] ::
    (statistics ++ [Report.delimiter, ['\n'], ['\n']])).flatten, ?_⟩
  simp only [Report.block, Report.pieces, Report.separator, List.cons_append, List.nil_append,
    List.flatten_cons, List.append_assoc]

/-- **Headers carry the time.**  The time of a report whose year has four digits is written in 24
characters, which read as the instant rounded down to the millisecond; and of two such times the
header of the later one is not below that of the earlier one. -/
theorem toHeader_faithful {t : Instant} (hlow : 0 ≤ t.date.year) (hhigh : t.date.year ≤ 9999) :
    (∀ fault statistics, ∃ rest,
      Report.block t fault statistics = Report.separator ++ t.toHeader ++ '\n' :: rest) ∧
    t.toHeader.length = 24 ∧
    ofRfc3339? t.toHeader = some t.toMillisecond ∧
    ∀ u : Instant, 0 ≤ u.date.year → u.date.year ≤ 9999 →
      (t.seconds < u.seconds ∨ t.seconds = u.seconds ∧ t.nanos ≤ u.nanos) →
        ¬ u.toHeader < t.toHeader := by
  refine ⟨block_eq_append_toHeader t, length_toHeader hlow hhigh, ofRfc3339?_toHeader hlow hhigh,
    fun u hulow huhigh hlater hlt => ?_⟩
  have hearlier := lt_of_toHeader_lt hlow hhigh hulow huhigh hlt
  omega

/-- The middle of a leap second, and the second after it. -/
theorem toHeader_faithful_leap :
    let leapSecond : Instant := ⟨1483228799, 1500000000, by decide⟩
    let newYear : Instant := ⟨1483228800, 0, by decide⟩
    leapSecond.toHeader = "2016-12-31T23:59:59.999Z".toList ∧
      leapSecond.toHeader.length = 24 ∧
      ofRfc3339? leapSecond.toHeader = some leapSecond.toMillisecond ∧
      ¬ newYear.toHeader < leapSecond.toHeader := by
  intro leapSecond newYear
  obtain ⟨-, hlength, hread, horder⟩ :=
    toHeader_faithful (show 0 ≤ leapSecond.date.year by decide) (by decide)
  exact ⟨by decide, hlength, hread, horder newYear (by decide) (by decide) (by decide)⟩

end Vigil.Instant
