import Vigil.Text.Utf8

/-!
# Text — reading UTF-8

Bytes are read from the left, so bytes that are a text are read alike whatever follows them
(`scan_append`), and a line feed is read as one whatever stands around it (`scan_lineFeed`).

* `scan_encode`, `decode?_encode`: a text that was written is read.
* `isText_take`: the front of a text that was written is a text exactly if no character is cut in
  two (`IsBoundary`).
* `isText_flatMap`: pieces one behind the other are a text exactly if each is, where each of them
  ends with a character (`Closed`).
-/

namespace Vigil.Text

/-- Bytes that are well-formed throughout. -/
def IsText (b : Bytes) : Prop := none ∉ scan b

theorem mapM_id_eq_some {α : Type} {os : List (Option α)} {s : List α} :
    os.mapM id = some s ↔ os = s.map some := by
  induction os generalizing s with
  | nil => cases s <;> simp
  | cons o os ih =>
      rw [List.mapM_cons]
      cases o with
      | none => cases s <;> simp
      | some c =>
          cases s with
          | nil => simp [Option.bind_eq_some_iff]
          | cons d s => simpa [Option.bind_eq_some_iff, ih] using and_comm

theorem decode?_eq_some {b : Bytes} {s : List Char} : decode? b = some s ↔ scan b = s.map some :=
  mapM_id_eq_some

theorem isText_iff {b : Bytes} : IsText b ↔ ∃ s, decode? b = some s := by
  simp only [decode?_eq_some, IsText]
  constructor
  · intro h
    refine ⟨(scan b).filterMap id, ?_⟩
    generalize scan b = os at h
    induction os with
    | nil => rfl
    | cons o os ih =>
        cases o with
        | none => exact absurd List.mem_cons_self h
        | some c => simpa using ih fun hm => h (List.mem_cons_of_mem _ hm)
  · rintro ⟨s, hs⟩ h
    rw [hs] at h
    simp at h

/-! ### One piece after another -/

section
variable {a b c d : UInt8} {s : Bytes}

theorem scan_one (ha : a < 0x80) : scan (a :: s) = some (Char.ofNat a.toNat) :: scan s := by
  rw [scan.eq_def]
  exact if_pos ha

theorem scan_cut_one (ha : ¬ a < 0x80) : scan [a] = [none] := by
  rw [scan.eq_def]
  exact if_neg ha

/-- The equation of `scan` behind a byte that is no character by itself. -/
theorem scan_lead (ha : ¬ a < 0x80) : scan (a :: b :: s) =
    if !isSecond a b then none :: scan (b :: s)
    else if a < 0xE0 then some (Char.ofNat (a.toNat % 32 * 64 + low b)) :: scan s
    else match s with
      | [] => [none]
      | c :: s =>
        if !isContinuation c then none :: scan (c :: s)
        else if a < 0xF0 then some (Char.ofNat (a.toNat % 16 * 4096 + low b * 64 + low c)) :: scan s
        else match s with
          | [] => [none]
          | d :: s =>
            if !isContinuation d then none :: scan (d :: s)
            else some (Char.ofNat
              (a.toNat % 8 * 262144 + low b * 4096 + low c * 64 + low d)) :: scan s := by
  rw [scan.eq_def]
  exact if_neg ha

theorem scan_no_second (ha : ¬ a < 0x80) (hb : (!isSecond a b) = true) :
    scan (a :: b :: s) = none :: scan (b :: s) := by
  simp only [scan_lead ha, if_pos hb]

theorem scan_two (ha : ¬ a < 0x80) (hb : ¬ (!isSecond a b) = true) (ha₂ : a < 0xE0) :
    scan (a :: b :: s) = some (Char.ofNat (a.toNat % 32 * 64 + low b)) :: scan s := by
  simp only [scan_lead ha, if_neg hb, if_pos ha₂]

theorem scan_no_third (ha : ¬ a < 0x80) (hb : ¬ (!isSecond a b) = true) (ha₂ : ¬ a < 0xE0)
    (hc : (!isContinuation c) = true) : scan (a :: b :: c :: s) = none :: scan (c :: s) := by
  simp only [scan_lead ha, if_neg hb, if_neg ha₂, if_pos hc]

theorem scan_three (ha : ¬ a < 0x80) (hb : ¬ (!isSecond a b) = true) (ha₂ : ¬ a < 0xE0)
    (hc : ¬ (!isContinuation c) = true) (ha₃ : a < 0xF0) :
    scan (a :: b :: c :: s) =
      some (Char.ofNat (a.toNat % 16 * 4096 + low b * 64 + low c)) :: scan s := by
  simp only [scan_lead ha, if_neg hb, if_neg ha₂, if_neg hc, if_pos ha₃]

theorem scan_no_fourth (ha : ¬ a < 0x80) (hb : ¬ (!isSecond a b) = true) (ha₂ : ¬ a < 0xE0)
    (hc : ¬ (!isContinuation c) = true) (ha₃ : ¬ a < 0xF0) (hd : (!isContinuation d) = true) :
    scan (a :: b :: c :: d :: s) = none :: scan (d :: s) := by
  simp only [scan_lead ha, if_neg hb, if_neg ha₂, if_neg hc, if_neg ha₃, if_pos hd]

theorem scan_four (ha : ¬ a < 0x80) (hb : ¬ (!isSecond a b) = true) (ha₂ : ¬ a < 0xE0)
    (hc : ¬ (!isContinuation c) = true) (ha₃ : ¬ a < 0xF0) (hd : ¬ (!isContinuation d) = true) :
    scan (a :: b :: c :: d :: s) = some (Char.ofNat
      (a.toNat % 8 * 262144 + low b * 4096 + low c * 64 + low d)) :: scan s := by
  simp only [scan_lead ha, if_neg hb, if_neg ha₂, if_neg hc, if_neg ha₃, if_neg hd]

/-! The end of a character is missing. -/

theorem scan_cut_two (ha : ¬ a < 0x80) (hb : ¬ (!isSecond a b) = true) (ha₂ : ¬ a < 0xE0) :
    scan [a, b] = [none] := by
  simp only [scan_lead ha, if_neg hb, if_neg ha₂]

theorem scan_cut_three (ha : ¬ a < 0x80) (hb : ¬ (!isSecond a b) = true) (ha₂ : ¬ a < 0xE0)
    (hc : ¬ (!isContinuation c) = true) (ha₃ : ¬ a < 0xF0) : scan [a, b, c] = [none] := by
  simp only [scan_lead ha, if_neg hb, if_neg ha₂, if_neg hc, if_neg ha₃]

end

/-! ### Reading on -/

theorem scan_append {b : Bytes} (h : IsText b) (rest : Bytes) :
    scan (b ++ rest) = scan b ++ scan rest := by
  rw [IsText] at h
  fun_induction scan b with
  | case1 => rfl
  | case2 a s ha ih =>
      rw [List.cons_append, scan_one ha, ih (by simpa using h), List.cons_append]
  | case3 | case4 | case6 | case7 | case9 | case10 => simp at h
  | case5 a ha b s hb ha₂ ih =>
      rw [List.cons_append, List.cons_append, scan_two ha hb ha₂, ih (by simpa using h),
        List.cons_append]
  | case8 a ha b hb ha₂ c s hc ha₃ ih =>
      rw [List.cons_append, List.cons_append, List.cons_append, scan_three ha hb ha₂ hc ha₃,
        ih (by simpa using h), List.cons_append]
  | case11 a ha b hb ha₂ c hc ha₃ d s hd ih =>
      rw [List.cons_append, List.cons_append, List.cons_append, List.cons_append,
        scan_four ha hb ha₂ hc ha₃ hd, ih (by simpa using h), List.cons_append]

theorem isSecond_lineFeed (a : UInt8) : (!isSecond a 10) = true := by
  rw [isSecond]
  repeat' split
  all_goals rfl

/-- A line feed is no part of another character. -/
theorem scan_lineFeed (b rest : Bytes) :
    scan (b ++ 10 :: rest) = scan b ++ some '\n' :: scan rest := by
  have hfeed : scan (10 :: rest) = some '\n' :: scan rest := scan_one (by decide)
  have hcont : (!isContinuation 10) = true := by decide
  fun_induction scan b with
  | case1 => exact hfeed
  | case2 a s ha ih => rw [List.cons_append, scan_one ha, ih, List.cons_append]
  | case3 a ha =>
      rw [List.singleton_append, scan_no_second ha (isSecond_lineFeed a), hfeed]
      rfl
  | case4 a ha b s hb ih =>
      rw [List.cons_append, List.cons_append, scan_no_second ha hb, ← List.cons_append, ih,
        List.cons_append]
  | case5 a ha b s hb ha₂ ih =>
      rw [List.cons_append, List.cons_append, scan_two ha hb ha₂, ih, List.cons_append]
  | case6 a ha b hb ha₂ =>
      rw [List.cons_append, List.singleton_append, scan_no_third ha hb ha₂ hcont, hfeed]
      rfl
  | case7 a ha b hb ha₂ c s hc ih =>
      rw [List.cons_append, List.cons_append, List.cons_append, scan_no_third ha hb ha₂ hc,
        ← List.cons_append, ih, List.cons_append]
  | case8 a ha b hb ha₂ c s hc ha₃ ih =>
      rw [List.cons_append, List.cons_append, List.cons_append, scan_three ha hb ha₂ hc ha₃, ih,
        List.cons_append]
  | case9 a ha b hb ha₂ c hc ha₃ =>
      rw [List.cons_append, List.cons_append, List.singleton_append,
        scan_no_fourth ha hb ha₂ hc ha₃ hcont, hfeed]
      rfl
  | case10 a ha b hb ha₂ c hc ha₃ d s hd ih =>
      rw [List.cons_append, List.cons_append, List.cons_append, List.cons_append,
        scan_no_fourth ha hb ha₂ hc ha₃ hd, ← List.cons_append, ih, List.cons_append]
  | case11 a ha b hb ha₂ c hc ha₃ d s hd ih =>
      rw [List.cons_append, List.cons_append, List.cons_append, List.cons_append,
        scan_four ha hb ha₂ hc ha₃ hd, ih, List.cons_append]

/-! ### Reading what was written -/

theorem lt_iff_of_toNat {a : UInt8} {n : Nat} (ha : a.toNat = n) (b : UInt8) :
    a < b ↔ n < b.toNat := by
  rw [UInt8.lt_iff_toNat_lt, ha]

/-- A second byte as it is written: the lead byte says which ones are refused. -/
theorem isSecond_of_toNat {a b : UInt8} (ha : 0xC2 ≤ a.toNat ∧ a.toNat ≤ 0xF4)
    (hb : 0x80 ≤ b.toNat ∧ b.toNat ≤ 0xBF) (h₁ : a.toNat = 0xE0 → 0xA0 ≤ b.toNat)
    (h₂ : a.toNat = 0xED → b.toNat ≤ 0x9F) (h₃ : a.toNat = 0xF0 → 0x90 ≤ b.toNat)
    (h₄ : a.toNat = 0xF4 → b.toNat ≤ 0x8F) : ¬ (!isSecond a b) = true := by
  simp only [Bool.not_eq_true', Bool.not_eq_false, isSecond, isContinuation, Bool.or_eq_true,
    decide_eq_true_eq, beq_iff_eq, UInt8.lt_iff_toNat_lt, UInt8.le_iff_toNat_le,
    ← UInt8.toNat_inj, UInt8.reduceToNat]
  repeat' split
  all_goals simp only [Bool.and_eq_true, decide_eq_true_eq, Bool.false_eq_true]
  all_goals omega

section
variable {n : Nat}

theorem toNat_tail (h : n < 64) : (UInt8.ofNat (n + 128)).toNat = n + 128 := by
  rw [UInt8.toNat_ofNat']
  omega

theorem low_tail (h : n < 64) : low (UInt8.ofNat (n + 128)) = n := by
  rw [low, toNat_tail h]
  omega

theorem isContinuation_tail (h : n < 64) : ¬ (!isContinuation (UInt8.ofNat (n + 128))) = true := by
  simp only [Bool.not_eq_true', Bool.not_eq_false, isContinuation, Bool.and_eq_true,
    decide_eq_true_eq, UInt8.le_iff_toNat_le, toNat_tail h, UInt8.reduceToNat]
  omega

end

/-- The bytes of one character. -/
inductive Written (c : Char) : Bytes → Prop where
  | one {a : UInt8} (ha : a < 0x80) (hc : Char.ofNat a.toNat = c) : Written c [a]
  | two {a b : UInt8} (ha : ¬ a < 0x80) (hb : ¬ (!isSecond a b) = true) (ha₂ : a < 0xE0)
      (hc : Char.ofNat (a.toNat % 32 * 64 + low b) = c) : Written c [a, b]
  | three {a b d : UInt8} (ha : ¬ a < 0x80) (hb : ¬ (!isSecond a b) = true) (ha₂ : ¬ a < 0xE0)
      (hd : ¬ (!isContinuation d) = true) (ha₃ : a < 0xF0)
      (hc : Char.ofNat (a.toNat % 16 * 4096 + low b * 64 + low d) = c) : Written c [a, b, d]
  | four {a b d e : UInt8} (ha : ¬ a < 0x80) (hb : ¬ (!isSecond a b) = true) (ha₂ : ¬ a < 0xE0)
      (hd : ¬ (!isContinuation d) = true) (ha₃ : ¬ a < 0xF0) (he : ¬ (!isContinuation e) = true)
      (hc : Char.ofNat (a.toNat % 8 * 262144 + low b * 4096 + low d * 64 + low e) = c) :
      Written c [a, b, d, e]

theorem written_encodeChar (c : Char) : Written c (String.utf8EncodeChar c) := by
  have hv : c.val.toNat.isValidChar := c.valid
  have hc : Char.ofNat c.val.toNat = c := Char.ofNat_toNat c
  rw [String.utf8EncodeChar]
  generalize c.val.toNat = v at hv hc
  have h₀ : v % 64 < 64 := Nat.mod_lt _ (by decide)
  have h₆ : v / 64 % 64 < 64 := Nat.mod_lt _ (by decide)
  have h₁₂ : v / 4096 % 64 < 64 := Nat.mod_lt _ (by decide)
  by_cases hone : v ≤ 127
  · have ha : (UInt8.ofNat v).toNat = v := by
      rw [UInt8.toNat_ofNat']
      omega
    rw [if_pos hone]
    exact .one ((lt_iff_of_toNat ha _).2 (Nat.lt_succ_of_le hone)) (by rw [ha, hc])
  · rw [if_neg hone]
    by_cases htwo : v ≤ 2047
    · have ha : (UInt8.ofNat (v / 64 % 32 + 192)).toNat = v / 64 % 32 + 192 := by
        rw [UInt8.toNat_ofNat']
        omega
      rw [if_pos htwo]
      have hread : (v / 64 % 32 + 192) % 32 * 64 + v % 64 = v := by omega
      refine .two ?_ (isSecond_of_toNat ?_ ?_ ?_ ?_ ?_ ?_) ?_ ?_
      all_goals simp only [lt_iff_of_toNat ha, ha, toNat_tail h₀, low_tail h₀, UInt8.reduceToNat]
      case refine_9 => rw [hread, hc]
      all_goals omega
    · rw [if_neg htwo]
      by_cases hthree : v ≤ 65535
      · have ha : (UInt8.ofNat (v / 4096 % 16 + 224)).toNat = v / 4096 % 16 + 224 := by
          rw [UInt8.toNat_ofNat']
          omega
        have hread : (v / 4096 % 16 + 224) % 16 * 4096 + v / 64 % 64 * 64 + v % 64 = v := by omega
        rw [if_pos hthree]
        refine .three ?_ (isSecond_of_toNat ?_ ?_ ?_ ?_ ?_ ?_) ?_ (isContinuation_tail h₀) ?_ ?_
        all_goals simp only [lt_iff_of_toNat ha, ha, toNat_tail h₆, low_tail h₆, low_tail h₀,
          UInt8.reduceToNat]
        case refine_10 => rw [hread, hc]
        all_goals omega
      · have ha : (UInt8.ofNat (v / 262144 % 8 + 240)).toNat = v / 262144 % 8 + 240 := by
          rw [UInt8.toNat_ofNat']
          omega
        have hread : (v / 262144 % 8 + 240) % 8 * 262144 + v / 4096 % 64 * 4096 + v / 64 % 64 * 64 +
            v % 64 = v := by omega
        rw [if_neg hthree]
        refine .four ?_ (isSecond_of_toNat ?_ ?_ ?_ ?_ ?_ ?_) ?_ (isContinuation_tail h₆) ?_
          (isContinuation_tail h₀) ?_
        all_goals simp only [lt_iff_of_toNat ha, ha, toNat_tail h₁₂, low_tail h₁₂, low_tail h₆,
          low_tail h₀, UInt8.reduceToNat]
        case refine_10 => rw [hread, hc]
        all_goals omega

/-- A character that was written is read. -/
theorem scan_encodeChar (c : Char) (s : Bytes) :
    scan (String.utf8EncodeChar c ++ s) = some c :: scan s := by
  have hw := written_encodeChar c
  generalize String.utf8EncodeChar c = w at hw ⊢
  cases hw with
  | one ha hc => exact (scan_one ha).trans (congrArg (some · :: scan s) hc)
  | two ha hb ha₂ hc => exact (scan_two ha hb ha₂).trans (congrArg (some · :: scan s) hc)
  | three ha hb ha₂ hd ha₃ hc => exact (scan_three ha hb ha₂ hd ha₃).trans (congrArg (some · :: scan s) hc)
  | four ha hb ha₂ hd ha₃ he hc => exact (scan_four ha hb ha₂ hd ha₃ he).trans (congrArg (some · :: scan s) hc)

theorem scan_encode (s : List Char) (rest : Bytes) :
    scan (encode s ++ rest) = s.map some ++ scan rest := by
  induction s with
  | nil => rfl
  | cons c s ih =>
      rw [encode, List.flatMap_cons, List.append_assoc, scan_encodeChar]
      exact congrArg (some c :: ·) ih

/-- What was written is read. -/
theorem decode?_encode (s : List Char) : decode? (encode s) = some s := by
  have h := scan_encode s []
  rw [List.append_nil] at h
  exact decode?_eq_some.2 (h.trans (List.append_nil _))

theorem isText_encode (s : List Char) : IsText (encode s) := isText_iff.2 ⟨s, decode?_encode s⟩

/-! ### Pieces that end with a character -/

/-- What follows these bytes is read as it is by itself. -/
def Closed (b : Bytes) : Prop := ∀ rest, scan (b ++ rest) = scan b ++ scan rest

theorem closed_of_isText {b : Bytes} (h : IsText b) : Closed b := scan_append h

/-- A line feed closes what was cut before it, too. -/
theorem closed_lineFeed (b : Bytes) {rest : Bytes} (h : IsText rest) :
    Closed (b ++ 10 :: rest) := by
  intro more
  rw [List.append_assoc, List.cons_append, scan_lineFeed, scan_lineFeed, scan_append h]
  simp only [List.append_assoc, List.cons_append]

theorem isText_lineFeed {b rest : Bytes} : IsText (b ++ 10 :: rest) ↔ IsText b ∧ IsText rest := by
  rw [IsText, scan_lineFeed, List.mem_append, List.mem_cons, not_or, not_or]
  exact ⟨fun h => ⟨h.1, h.2.2⟩, fun h => ⟨h.1, nofun, h.2⟩⟩

theorem Closed.isText_append {b rest : Bytes} (h : Closed b) :
    IsText (b ++ rest) ↔ IsText b ∧ IsText rest := by
  rw [IsText, h, List.mem_append, not_or]
  rfl

theorem isText_flatMap {α : Type} {f : α → Bytes} {l : List α} (h : ∀ a ∈ l, Closed (f a)) :
    IsText (l.flatMap f) ↔ ∀ a ∈ l, IsText (f a) := by
  induction l with
  | nil => exact ⟨fun _ a ha => (nomatch ha), fun _ hm => (nomatch hm)⟩
  | cons a l ih =>
      rw [List.flatMap_cons, (h a List.mem_cons_self).isText_append,
        ih fun a' ha' => h a' (List.mem_cons_of_mem _ ha'), List.forall_mem_cons]

/-! ### Cutting what was written -/

/-- No character lies across the end of the first `n` bytes of a text. -/
def IsBoundary (s : List Char) (n : Nat) : Prop :=
  ∃ front back, s = front ++ back ∧ (encode front).length = n

theorem length_encodeChar_pos (c : Char) : 0 < (String.utf8EncodeChar c).length := by
  rw [String.length_utf8EncodeChar]
  exact c.utf8Size_pos

/-- A character of which the end is missing is not read. -/
theorem scan_take_encodeChar (c : Char) {n : Nat} (hpos : 0 < n)
    (hlt : n < (String.utf8EncodeChar c).length) :
    scan ((String.utf8EncodeChar c).take n) = [none] := by
  have hw := written_encodeChar c
  generalize String.utf8EncodeChar c = w at hw hlt ⊢
  cases hw with
  | one => exact absurd hlt (Nat.not_lt.2 hpos)
  | two ha _ _ _ =>
      obtain rfl : n = 1 := Nat.le_antisymm (Nat.le_of_lt_succ hlt) hpos
      exact scan_cut_one ha
  | three ha hb ha₂ _ _ _ =>
      obtain rfl | rfl : n = 1 ∨ n = 2 := by
        simp only [List.length_cons, List.length_nil] at hlt
        omega
      · exact scan_cut_one ha
      · exact scan_cut_two ha hb ha₂
  | four ha hb ha₂ hd ha₃ _ _ =>
      obtain rfl | rfl | rfl : n = 1 ∨ n = 2 ∨ n = 3 := by
        simp only [List.length_cons, List.length_nil] at hlt
        omega
      · exact scan_cut_one ha
      · exact scan_cut_two ha hb ha₂
      · exact scan_cut_three ha hb ha₂ hd ha₃

theorem isBoundary_cons {c : Char} {s : List Char} {n : Nat} :
    IsBoundary (c :: s) n ↔ n = 0 ∨
      (String.utf8EncodeChar c).length ≤ n ∧ IsBoundary s (n - (String.utf8EncodeChar c).length) := by
  constructor
  · rintro ⟨front, back, h, hn⟩
    cases front with
    | nil => exact Or.inl hn.symm
    | cons d front =>
        rw [List.cons_append, List.cons.injEq] at h
        obtain ⟨rfl, rfl⟩ := h
        rw [encode, List.flatMap_cons, List.length_append] at hn
        exact Or.inr ⟨by omega, front, back, rfl, by rw [encode]; omega⟩
  · rintro (rfl | ⟨hle, front, back, rfl, hn⟩)
    · exact ⟨[], c :: s, rfl, rfl⟩
    · refine ⟨c :: front, back, rfl, ?_⟩
      rw [encode, List.flatMap_cons, List.length_append, ← encode, hn]
      omega

/-- The front of a text that was written is a text exactly if no character is cut in two. -/
theorem isText_take {s : List Char} {n : Nat} (h : n ≤ (encode s).length) :
    IsText ((encode s).take n) ↔ IsBoundary s n := by
  induction s generalizing n with
  | nil =>
      obtain rfl : n = 0 := Nat.le_zero.1 h
      exact ⟨fun _ => ⟨[], [], rfl, rfl⟩, fun _ hm => (nomatch hm)⟩
  | cons c s ih =>
      rw [isBoundary_cons, encode, List.flatMap_cons, ← encode, List.take_append]
      rw [encode, List.flatMap_cons, List.length_append, ← encode] at h
      rcases Nat.lt_or_ge n (String.utf8EncodeChar c).length with hlt | hge
      · -- The cut is in the first character, or before it.
        rw [Nat.sub_eq_zero_of_le (Nat.le_of_lt hlt), List.take_zero, List.append_nil]
        rcases Nat.eq_zero_or_pos n with rfl | hpos
        · exact ⟨fun _ => Or.inl rfl, fun _ hm => (nomatch hm)⟩
        · have hno : ¬ IsText ((String.utf8EncodeChar c).take n) := fun ht =>
            ht (by rw [scan_take_encodeChar c hpos hlt]; exact List.mem_singleton_self _)
          refine ⟨fun ht => absurd ht hno, ?_⟩
          rintro (rfl | ⟨hle, -⟩)
          · exact absurd hpos (Nat.lt_irrefl 0)
          · exact absurd hlt (Nat.not_lt.2 hle)
      · have hpos := length_encodeChar_pos c
        rw [List.take_of_length_le hge, IsText, scan_encodeChar]
        have hrest : IsText ((encode s).take (n - (String.utf8EncodeChar c).length)) ↔ _ :=
          ih (by omega)
        constructor
        · exact fun ht => Or.inr ⟨hge, hrest.1 fun hm => ht (List.mem_cons_of_mem _ hm)⟩
        · rintro (rfl | ⟨-, hb⟩) hm
          · exact absurd hpos (Nat.not_lt.2 hge)
          · rcases List.mem_cons.1 hm with hm | hm
            · cases hm
            · exact hrest.2 hb hm

theorem isBoundary_zero (s : List Char) : IsBoundary s 0 := ⟨[], s, rfl, rfl⟩

/-- Whole characters in front move a cut. -/
theorem isBoundary_append {front s : List Char} {n : Nat} (h : (encode front).length ≤ n) :
    IsBoundary (front ++ s) n ↔ IsBoundary s (n - (encode front).length) := by
  induction front generalizing n with
  | nil => rfl
  | cons c front ih =>
      have hpos := length_encodeChar_pos c
      have hlength : (encode (c :: front)).length =
          (String.utf8EncodeChar c).length + (encode front).length := List.length_append
      rw [List.cons_append, isBoundary_cons, ih (by omega), hlength, Nat.sub_add_eq]
      constructor
      · rintro (rfl | ⟨-, hb⟩)
        · omega
        · exact hb
      · exact fun hb => Or.inr ⟨by omega, hb⟩

/-- Among characters of one width the boundaries are the multiples of it. -/
theorem isBoundary_replicate {c : Char} {k n : Nat} {s : List Char}
    (h : n ≤ k * (String.utf8EncodeChar c).length) :
    IsBoundary (List.replicate k c ++ s) n ↔ (String.utf8EncodeChar c).length ∣ n := by
  induction k generalizing n with
  | zero =>
      obtain rfl : n = 0 := by omega
      exact ⟨fun _ => Nat.dvd_zero _, fun _ => isBoundary_zero _⟩
  | succ k ih =>
      rw [Nat.succ_mul] at h
      rw [List.replicate_succ, List.cons_append, isBoundary_cons, ih (by omega)]
      constructor
      · rintro (rfl | ⟨hle, hdvd⟩)
        · exact Nat.dvd_zero _
        · exact (Nat.dvd_sub_iff_left hle (Nat.dvd_refl _)).1 hdvd
      · intro hdvd
        rcases Nat.eq_zero_or_pos n with rfl | hpos
        · exact Or.inl rfl
        · have hle := Nat.le_of_dvd hpos hdvd
          exact Or.inr ⟨hle, Nat.dvd_sub hdvd (Nat.dvd_refl _)⟩

end Vigil.Text
