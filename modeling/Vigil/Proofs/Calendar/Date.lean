import Mathlib.Algebra.GroupWithZero.Nat
import Vigil.Calendar.Date

/-!
# Calendar — days and dates

The numbering of days is read back.  The years lie one behind the other (`daysBeforeYear_succ`), so
every day lies in one year (`yearOf_le`, `lt_yearOf`), and in it in one month (`monthDay_cases`).

* `valid_ofDays`: every day has a date that the calendar has.
* `days_ofDays`: that date has the number of the day.
* `year_ofDays_add`: a day before or after a date lies at most a year before or after it.
* `Before.days_lt`: the days are numbered in the order of their dates.
-/

namespace Vigil.Date

/-! ### Years -/

/-- The days of a year are those of its months. -/
theorem daysBeforeYear_succ (y : Int) :
    daysBeforeYear (y + 1) = daysBeforeYear y + ((monthLengths y).sum : Nat) := by
  have hsum : (monthLengths y).sum = if isLeap y then 366 else 365 := by
    rw [monthLengths]
    split <;> rfl
  rw [hsum]
  simp only [isLeap, Bool.and_eq_true, Bool.or_eq_true, decide_eq_true_eq, daysBeforeYear]
  split <;> omega

theorem daysBeforeYear_le {y z : Int} (h : y ≤ z) : daysBeforeYear y ≤ daysBeforeYear z := by
  simp only [daysBeforeYear]
  omega

theorem daysBeforeYear_lt {y : Int} : daysBeforeYear y < daysBeforeYear (y + 1) := by
  simp only [daysBeforeYear]
  omega

/-- A day does not lie before its year. -/
theorem yearOf_le (n : Int) : daysBeforeYear (yearOf n) ≤ n := by
  simp only [yearOf]
  split
  next => simp only [daysBeforeYear] at *; omega
  next hlow =>
    split
    next h => exact h
    next => exact Int.not_lt.1 hlow

/-- A day does not lie behind its year. -/
theorem lt_yearOf (n : Int) : n < daysBeforeYear (yearOf n + 1) := by
  simp only [yearOf]
  split
  next h => rwa [Int.sub_add_cancel]
  next =>
    split
    next => simp only [daysBeforeYear] at *; omega
    next hhigh => exact Int.not_le.1 hhigh

/-! ### Months -/

/-- Each of the days of a year lies in one of its months. -/
theorem monthDay_cases (month : Nat) {lengths : List Nat} {n : Nat} (h : n < lengths.sum) :
    ∃ i k length, monthDay month lengths n = (month + i, k + 1) ∧ lengths[i]? = some length ∧
      k < length ∧ n = (lengths.take i).sum + k := by
  induction lengths generalizing month n with
  | nil => cases h
  | cons length rest ih =>
      rw [monthDay]
      split
      next hlt => exact ⟨0, n, length, rfl, rfl, hlt, (Nat.zero_add n).symm⟩
      next hge =>
        rw [List.sum_cons] at h
        obtain ⟨i, k, l, heq, hl, hk, hn⟩ := ih (month + 1) (n := n - length) (by omega)
        refine ⟨i + 1, k, l, ?_, hl, hk, ?_⟩
        · rw [heq, Nat.add_assoc, Nat.add_comm 1 i]
        · rw [List.take_succ_cons, List.sum_cons]
          omega

theorem length_le {y : Int} {length : Nat} (h : length ∈ monthLengths y) : length ≤ 31 := by
  rw [monthLengths] at h
  split at h <;> revert length <;> decide

/-- The days up to a later month are at least those of this month and the ones before it. -/
theorem sum_take_add_le {lengths : List Nat} {i j length : Nat} (h : lengths[i]? = some length)
    (hij : i < j) : (lengths.take i).sum + length ≤ (lengths.take j).sum := by
  obtain ⟨k, rfl⟩ := Nat.exists_eq_add_of_lt hij
  have htake : lengths.take (i + k + 1) =
      lengths.take i ++ [length] ++ (lengths.drop (i + 1)).take k := by
    rw [Nat.add_right_comm, List.take_add, List.take_add_one, h, Option.toList_some]
  rw [htake, List.sum_append, List.sum_append, List.sum_singleton]
  exact Nat.le_add_right _ _

/-! ### The date of a day -/

/-- The day of the year of a day, and its date. -/
theorem ofDays_cases (n : Int) :
    ∃ i k length, ofDays n = ⟨yearOf (n + epoch), i + 1, k + 1⟩ ∧
      (monthLengths (yearOf (n + epoch)))[i]? = some length ∧ k < length ∧
      n = daysBeforeYear (yearOf (n + epoch)) +
        (((monthLengths (yearOf (n + epoch))).take i).sum + k : Nat) - epoch := by
  have hlow := yearOf_le (n + epoch)
  have hhigh := lt_yearOf (n + epoch)
  rw [daysBeforeYear_succ] at hhigh
  have hday : (n + epoch - daysBeforeYear (yearOf (n + epoch))).toNat <
      (monthLengths (yearOf (n + epoch))).sum := by omega
  obtain ⟨i, k, length, heq, hl, hk, hn⟩ := monthDay_cases 1 hday
  refine ⟨i, k, length, ?_, hl, hk, by omega⟩
  rw [ofDays, heq, Nat.add_comm 1 i]

/-- Every day has a date that the calendar has. -/
theorem valid_ofDays (n : Int) : (ofDays n).valid = true := by
  obtain ⟨i, k, length, heq, hl, hk, -⟩ := ofDays_cases n
  have hi : i < 12 := (List.getElem?_eq_some_iff.1 hl).1
  rw [heq]
  simp only [valid, Nat.add_sub_cancel, hl, Option.getD_some, Bool.and_eq_true, decide_eq_true_eq]
  omega

/-- The date of a day has the number of the day. -/
theorem days_ofDays (n : Int) : (ofDays n).days = n := by
  obtain ⟨i, k, length, heq, -, -, hn⟩ := ofDays_cases n
  rw [heq]
  exact hn.symm

/-! ### The day of a date -/

/-- A date of the calendar has a month of its year and a day of that month. -/
theorem length_of_valid {d : Date} (h : d.valid = true) :
    ∃ length, (monthLengths d.year)[d.month - 1]? = some length ∧ 1 ≤ d.month ∧ d.month ≤ 12 ∧
      1 ≤ d.day ∧ d.day ≤ length := by
  simp only [valid, Bool.and_eq_true, decide_eq_true_eq] at h
  obtain ⟨⟨⟨hm, hle⟩, hd⟩, hday⟩ := h
  cases hl : (monthLengths d.year)[d.month - 1]? with
  | none => rw [hl] at hday; exact absurd (Nat.le_trans hd hday) (by decide)
  | some length => rw [hl] at hday; exact ⟨length, rfl, hm, hle, hd, hday⟩

/-- Month and day of a date have two digits. -/
theorem valid_le {d : Date} (h : d.valid = true) : d.month ≤ 12 ∧ d.day ≤ 31 := by
  obtain ⟨length, hl, -, hm, -, hday⟩ := length_of_valid h
  exact ⟨hm, Nat.le_trans hday (length_le (List.mem_of_getElem? hl))⟩

theorem days_eq (d : Date) :
    d.days = daysBeforeYear d.year +
      (((monthLengths d.year).take (d.month - 1)).sum + (d.day - 1) : Nat) - epoch := rfl

/-- The day of a date lies in its year. -/
theorem days_bounds {d : Date} (h : d.valid = true) :
    daysBeforeYear d.year ≤ d.days + epoch ∧ d.days + epoch < daysBeforeYear (d.year + 1) := by
  obtain ⟨length, hl, hm, hle, hd, hday⟩ := length_of_valid h
  have hmonths := sum_take_add_le hl (show d.month - 1 < 12 by omega)
  rw [List.take_of_length_le (show (monthLengths d.year).length ≤ 12 from Nat.le_refl 12)]
    at hmonths
  rw [daysBeforeYear_succ, days_eq]
  omega

/-- A day before or after a date lies at most a year before or after it. -/
theorem year_ofDays_add {d : Date} (h : d.valid = true) {n : Int} (hlow : d.days - 1 ≤ n)
    (hhigh : n ≤ d.days + 1) : d.year - 1 ≤ (ofDays n).year ∧ (ofDays n).year ≤ d.year + 1 := by
  obtain ⟨hstart, hend⟩ := days_bounds h
  have hbefore := @daysBeforeYear_lt (d.year - 1)
  have hafter := @daysBeforeYear_lt (d.year + 1)
  have hin := yearOf_le (n + epoch)
  have hout := lt_yearOf (n + epoch)
  rw [Int.sub_add_cancel] at hbefore
  change d.year - 1 ≤ yearOf (n + epoch) ∧ yearOf (n + epoch) ≤ d.year + 1
  constructor
  · refine Int.not_lt.1 fun hlt => ?_
    have hle := daysBeforeYear_le (show yearOf (n + epoch) + 1 ≤ d.year - 1 from hlt)
    omega
  · refine Int.not_lt.1 fun hlt => ?_
    have hle := daysBeforeYear_le (show d.year + 1 + 1 ≤ yearOf (n + epoch) from hlt)
    omega

/-! ### The order of dates -/

/-- A date comes before another one: by the years, then by the months, then by the days. -/
def Before (d e : Date) : Prop :=
  d.year < e.year ∨ d.year = e.year ∧ (d.month < e.month ∨ d.month = e.month ∧ d.day < e.day)

/-- The days are numbered in the order of their dates. -/
theorem Before.days_lt {d e : Date} (h : d.Before e) (hd : d.valid = true) (he : e.valid = true) :
    d.days < e.days := by
  rcases h with hyear | ⟨hyear, hmonth | ⟨hmonth, hday⟩⟩
  · have hend := (days_bounds hd).2
    have hstart := (days_bounds he).1
    have hle := daysBeforeYear_le (show d.year + 1 ≤ e.year from hyear)
    omega
  · obtain ⟨length, hl, hm, -, hfirst, hday⟩ := length_of_valid hd
    have hmonths := sum_take_add_le hl (show d.month - 1 < e.month - 1 by omega)
    rw [days_eq, days_eq, ← hyear]
    omega
  · obtain ⟨-, -, -, -, hfirst, -⟩ := length_of_valid hd
    rw [days_eq, days_eq, ← hyear, ← hmonth]
    omega

end Vigil.Date
