import Mathlib.Algebra.GroupWithZero.Nat
import Mathlib.Data.List.Induction
import Vigil.Number.Digits

/-!
# Number — digits read back

A number that was written in decimal reads back as itself.

* `takeDigits?_fixed`: a fixed width, whatever follows the digits.
* `ofDigits_decimal`: as many digits as the number needs.
* `fixed_append_lt_iff`: texts that begin with numbers of one width compare as these do, and then
  as what follows.
* `takeDigits?_eq_some`: which texts a number is read from, and how large it can be.
-/

namespace Vigil.Number

/-! ### One digit -/

theorem isDigit_digit (n : Nat) : isDigit (digit n) = true := by
  have h : ∀ k < 10, isDigit (Char.ofNat (48 + k)) = true := by decide
  exact h (n % 10) (Nat.mod_lt n (by decide))

theorem digitValue_digit (n : Nat) : digitValue (digit n) = n % 10 := by
  have h : ∀ k < 10, digitValue (Char.ofNat (48 + k)) = k := by decide
  exact h (n % 10) (Nat.mod_lt n (by decide))

theorem digitValue_lt {c : Char} (h : isDigit c = true) : digitValue c < 10 := by
  obtain ⟨-, hle⟩ := Bool.and_eq_true_iff.1 h
  have hnat : c.toNat ≤ '9'.toNat := Char.le_def.1 (of_decide_eq_true hle)
  exact Nat.lt_succ_of_le (Nat.sub_le_of_le_add hnat)

/-! ### A run of digits -/

theorem ofDigits_concat (s : List Char) (c : Char) :
    ofDigits (s ++ [c]) = ofDigits s * 10 + digitValue c := by
  rw [ofDigits, List.foldl_append]
  rfl

theorem ofDigits_lt {s : List Char} (h : ∀ c ∈ s, isDigit c = true) :
    ofDigits s < 10 ^ s.length := by
  induction s using List.reverseRecOn with
  | nil => decide
  | append_singleton s c ih =>
      have hs := ih fun d hd => h d (List.mem_append_left _ hd)
      have hc := digitValue_lt (h c (List.mem_append_right _ (List.mem_singleton_self c)))
      rw [ofDigits_concat, List.length_append, List.length_singleton, Nat.pow_succ]
      omega

/-- What was read from the front of a text: its first `width` characters, which are digits. -/
theorem takeDigits?_eq_some {width n : Nat} {s rest : List Char}
    (h : takeDigits? width s = some (n, rest)) :
    (∀ c ∈ s.take width, isDigit c = true) ∧ n < 10 ^ width := by
  rw [takeDigits?] at h
  split at h
  next hrun =>
    obtain ⟨hlen, hall⟩ := Bool.and_eq_true_iff.1 hrun
    cases h
    have hdigits := List.all_eq_true.1 hall
    have hlt := ofDigits_lt hdigits
    rw [of_decide_eq_true hlen] at hlt
    exact ⟨hdigits, hlt⟩
  next => cases h

/-! ### A fixed width -/

theorem length_fixed (width n : Nat) : (fixed width n).length = width := by
  induction width generalizing n with
  | zero => rfl
  | succ width ih => rw [fixed, List.length_append, ih, List.length_singleton]

theorem isDigit_of_mem_fixed {width n : Nat} {c : Char} (h : c ∈ fixed width n) :
    isDigit c = true := by
  induction width generalizing n with
  | zero => cases h
  | succ width ih =>
      rcases List.mem_append.1 h with h | h
      · exact ih h
      · rw [List.mem_singleton.1 h]
        exact isDigit_digit n

theorem ofDigits_fixed (width n : Nat) : ofDigits (fixed width n) = n % 10 ^ width := by
  induction width generalizing n with
  | zero => exact (Nat.mod_one n).symm
  | succ width ih =>
      rw [fixed, ofDigits_concat, ih, digitValue_digit, Nat.pow_succ, Nat.mul_comm (10 ^ width),
        Nat.mod_mul]
      omega

/-- The digits of a fixed width read back, and what follows them is left. -/
theorem takeDigits?_fixed {width n : Nat} (h : n < 10 ^ width) (rest : List Char) :
    takeDigits? width (fixed width n ++ rest) = some (n, rest) := by
  have hall : (fixed width n).all isDigit = true :=
    List.all_eq_true.2 fun _ hc => isDigit_of_mem_fixed hc
  rw [takeDigits?, List.take_left' (length_fixed width n), List.drop_left' (length_fixed width n),
    hall, length_fixed, ofDigits_fixed, Nat.mod_eq_of_lt h]
  simp

/-- A number of a fixed width is written in one way. -/
theorem fixed_inj {width n m : Nat} (hn : n < 10 ^ width) (hm : m < 10 ^ width) :
    fixed width n = fixed width m ↔ n = m := by
  refine ⟨fun h => ?_, congrArg (fixed width)⟩
  have hvalue := congrArg ofDigits h
  rwa [ofDigits_fixed, ofDigits_fixed, Nat.mod_eq_of_lt hn, Nat.mod_eq_of_lt hm] at hvalue

/-- A run of digits is what its value is written as in its width. -/
theorem fixed_ofDigits {s : List Char} (h : ∀ c ∈ s, isDigit c = true) :
    fixed s.length (ofDigits s) = s := by
  induction s using List.reverseRecOn with
  | nil => rfl
  | append_singleton s c ih =>
      have hc := h c (List.mem_append_right _ (List.mem_singleton_self c))
      have hlt := digitValue_lt hc
      have hhigh : (ofDigits s * 10 + digitValue c) / 10 = ofDigits s := by omega
      have hlow : digit (ofDigits s * 10 + digitValue c) = c := by
        have hge : '0'.toNat ≤ c.toNat :=
          Char.le_def.1 (of_decide_eq_true (Bool.and_eq_true_iff.1 hc).1)
        have hnat : 48 + (ofDigits s * 10 + digitValue c) % 10 = c.toNat := by
          rw [Nat.mul_comm, Nat.mul_add_mod, Nat.mod_eq_of_lt hlt]
          exact Nat.add_sub_cancel' hge
        rw [digit, hnat, Char.ofNat_toNat]
      rw [ofDigits_concat, List.length_append, List.length_singleton, fixed, hhigh, hlow,
        ih fun d hd => h d (List.mem_append_left _ hd)]

/-! ### The order of the texts -/

/-- Texts compare by fronts of one length, and then by what follows them. -/
theorem append_lt_append_iff {s t : List Char} (h : s.length = t.length) {u v : List Char} :
    s ++ u < t ++ v ↔ s < t ∨ s = t ∧ u < v := by
  induction s generalizing t with
  | nil =>
      rw [List.eq_nil_of_length_eq_zero h.symm]
      simp only [List.nil_append, List.lt_irrefl, true_and, false_or]
  | cons c s ih =>
      cases t with
      | nil => cases h
      | cons d t =>
          rw [List.cons_append, List.cons_append, List.cons_lt_cons_iff, List.cons_lt_cons_iff,
            ih (Nat.succ.inj h), List.cons.injEq]
          tauto

theorem digit_lt_iff {n m : Nat} : digit n < digit m ↔ n % 10 < m % 10 := by
  have h : ∀ k < 10, ∀ l < 10, Char.ofNat (48 + k) < Char.ofNat (48 + l) ↔ k < l := by decide
  exact h (n % 10) (Nat.mod_lt n (by decide)) (m % 10) (Nat.mod_lt m (by decide))

theorem fixed_lt_iff {width n m : Nat} (hn : n < 10 ^ width) (hm : m < 10 ^ width) :
    fixed width n < fixed width m ↔ n < m := by
  induction width generalizing n m with
  | zero =>
      rw [Nat.pow_zero] at hn hm
      simp only [fixed, List.lt_irrefl, false_iff]
      omega
  | succ width ih =>
      rw [Nat.pow_succ] at hn hm
      have hn' : n / 10 < 10 ^ width := by omega
      have hm' : m / 10 < 10 ^ width := by omega
      rw [fixed, fixed, append_lt_append_iff (by rw [length_fixed, length_fixed]), ih hn' hm', 
        fixed_inj hn' hm', List.cons_lt_cons_iff, digit_lt_iff]
      simp only [List.lt_irrefl, and_false, or_false]
      omega

/-- Texts that begin with numbers of one width compare as these do, and then as what follows. -/
theorem fixed_append_lt_iff {width n m : Nat} (hn : n < 10 ^ width) (hm : m < 10 ^ width)
    {s t : List Char} : fixed width n ++ s < fixed width m ++ t ↔ n < m ∨ n = m ∧ s < t := by
  rw [append_lt_append_iff (by rw [length_fixed, length_fixed]), fixed_lt_iff hn hm,
    fixed_inj hn hm]

/-! ### As many digits as needed -/

theorem isDigit_of_mem_decimal {n : Nat} {c : Char} (h : c ∈ decimal n) : isDigit c = true := by
  have hdigit := Nat.isDigit_of_mem_toDigits (by decide) (by decide) h
  simp only [Char.isDigit, Bool.and_eq_true, decide_eq_true_eq] at hdigit
  exact Bool.and_eq_true_iff.2 ⟨decide_eq_true hdigit.1, decide_eq_true hdigit.2⟩

theorem decimal_ne_nil (n : Nat) : decimal n ≠ [] := Nat.toDigits_ne_nil

theorem ofDigits_decimal (n : Nat) : ofDigits (decimal n) = n := by
  have hread : ∀ s : List Char, ofDigits s = Nat.ofDigitChars 10 s 0 := fun s =>
    congrArg (fun f => s.foldl f 0) (funext fun m => funext fun c =>
      congrArg (· + digitValue c) (Nat.mul_comm m 10))
  rw [hread]
  exact Nat.ofDigitChars_toDigits (by decide) (by decide)

/-- Leading zeros do not count. -/
theorem ofDigits_zeros_append (k : Nat) (s : List Char) :
    ofDigits (List.replicate k '0' ++ s) = ofDigits s := by
  induction k with
  | zero => rfl
  | succ k ih =>
      rw [List.replicate_succ, List.cons_append]
      exact ih

/-- A number that does not need more digits is padded to a fixed width. -/
theorem padded_eq_fixed {width n : Nat} (hwidth : 0 < width) (h : n < 10 ^ width) :
    padded width n = fixed width n := by
  have hlen : (decimal n).length ≤ width := (Nat.length_toDigits_le_iff (by decide) hwidth).2 h
  have hlength : (padded width n).length = width := by
    rw [padded, List.length_append, List.length_replicate, Nat.sub_add_cancel hlen]
  have hvalue : ofDigits (padded width n) = n := by
    rw [padded, ofDigits_zeros_append, ofDigits_decimal]
  have hdigits : ∀ c ∈ padded width n, isDigit c = true :=
    List.forall_mem_append.2 ⟨fun c hc => by rw [(List.mem_replicate.1 hc).2]; rfl,
      fun _ hc => isDigit_of_mem_decimal hc⟩
  have hfixed := fixed_ofDigits hdigits
  rw [hlength, hvalue] at hfixed
  exact hfixed.symm

end Vigil.Number
