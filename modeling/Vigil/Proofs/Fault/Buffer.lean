import Vigil.Proofs.Fault.Truncation

/-!
# Fault — a buffer under any use

A writer may go on after a text that did not fit (`writeEach`).  Whatever it writes, the buffer
holds the longest prefix that fits of all the texts together, and the memory behind that is as it
was (`Keeps`).  One write keeps this (`Keeps.write`), so any number of them does
(`Keeps.writeEach`).

* `Raw`: a buffer of which nothing is assumed, with operations that cut and copy ranges of its
  memory and have no result where a range is not in it.
* `writeEach?_raw`, `finish?_raw`: no range that a buffer cuts or copies is outside of its memory,
  and what they make of it is what the buffer's own operations say.

**The longest prefix** (`longest_prefix_kept`): what a buffer over any memory holds after any texts,
what it said of each of them, and what it is finished with.
-/

namespace Vigil.Fault.FixedBuffer
variable {memory whole : Bytes} {b : FixedBuffer}

/-! ### Going on after a text that did not fit -/

/-- Writes every text, also behind one that did not fit; says of each whether it did. -/
def writeEach (b : FixedBuffer) : List Bytes → FixedBuffer × List Bool
  | [] => (b, [])
  | s :: rest =>
    let first := b.write s
    let others := first.1.writeEach rest
    (others.1, first.2 :: others.2)

/-- The buffer is over what was `memory`, and holds the longest prefix of `whole` that fits. -/
structure Keeps (memory whole : Bytes) (b : FixedBuffer) : Prop where
  size : b.size = memory.length
  contents : b.contents = whole.take memory.length
  behind : b.bytes.drop b.filled = memory.drop b.filled
  truncated : b.truncated = decide (memory.length < whole.length)

theorem keeps_new (memory : Bytes) : Keeps memory [] (new memory) where
  size := rfl
  contents := List.take_nil.symm
  behind := rfl
  truncated := rfl

theorem Keeps.filled (h : Keeps memory whole b) : b.filled = min memory.length whole.length := by
  rw [← length_contents, h.contents, List.length_take]

/-! ### One write -/

theorem filled_le_write (b : FixedBuffer) (s : Bytes) : b.filled ≤ (b.write s).1.filled := by
  rw [write]
  split
  · exact Nat.le_add_right _ _
  · exact b.filled_le

/-- A write changes nothing behind what it writes. -/
theorem drop_write (b : FixedBuffer) (s : Bytes) :
    (b.write s).1.bytes.drop (b.write s).1.filled = b.bytes.drop (b.write s).1.filled := by
  by_cases h : s.length ≤ b.size - b.filled
  · have hlen : (b.contents ++ s).length = b.filled + s.length := by
      rw [List.length_append, length_contents]
    rw [write, dif_pos h]
    exact List.drop_left' hlen
  · have hfull : (b.write s).1.filled = b.size := by rw [write, dif_neg h]
    rw [hfull, List.drop_of_length_le (Nat.le_of_eq (b.size_write s))]
    exact (List.drop_of_length_le (Nat.le_refl b.size)).symm

/-- A text fits exactly if all that was written fits with it, or if it is empty. -/
theorem Keeps.fits (h : Keeps memory whole b) (s : Bytes) :
    (b.write s).2 = decide ((whole ++ s).length ≤ memory.length ∨ s = []) := by
  rw [fits_write, length_contents, h.filled, h.size, decide_eq_decide, List.length_append,
    ← List.length_eq_zero_iff]
  omega

theorem Keeps.write (h : Keeps memory whole b) (s : Bytes) :
    Keeps memory (whole ++ s) (b.write s).1 where
  size := (b.size_write s).trans h.size
  contents := by
    have hroom : memory.length - min memory.length whole.length = memory.length - whole.length := by
      omega
    rw [contents_write, h.contents, h.size, List.take_append, List.take_append, List.take_take,
      Nat.min_self, List.length_take, hroom]
  behind := by
    -- What was behind the old contents is as it was, so what is behind the new ones is.
    obtain ⟨n, hn⟩ := Nat.exists_eq_add_of_le (b.filled_le_write s)
    rw [drop_write, hn, ← List.drop_drop, h.behind, List.drop_drop]
  truncated := by
    -- An empty text fits even into a full buffer; what was missing before it still is.
    rw [truncated_write, h.truncated, h.fits, ← decide_not, ← Bool.decide_or, decide_eq_decide,
      List.length_append, ← List.length_eq_zero_iff]
    omega

/-! ### Any number of writes -/

theorem writeEach_append (b : FixedBuffer) (texts rest : List Bytes) :
    b.writeEach (texts ++ rest) =
      (((b.writeEach texts).1.writeEach rest).1,
        (b.writeEach texts).2 ++ ((b.writeEach texts).1.writeEach rest).2) := by
  induction texts generalizing b with
  | nil => rfl
  | cons s texts ih => rw [List.cons_append, writeEach, ih, writeEach, List.cons_append]

theorem Keeps.writeEach (h : Keeps memory whole b) (texts : List Bytes) :
    Keeps memory (whole ++ texts.flatten) (b.writeEach texts).1 := by
  induction texts generalizing b whole with
  | nil =>
      rw [List.flatten_nil, List.append_nil]
      exact h
  | cons s rest ih =>
      rw [List.flatten_cons, ← List.append_assoc]
      exact ih (h.write s)

/-- What is said of each text, the first of them being that at zero. -/
theorem Keeps.fits_writeEach (h : Keeps memory whole b) (texts : List Bytes) (i : Nat) :
    (b.writeEach texts).2[i]? = texts[i]?.map fun s =>
      decide ((whole ++ (texts.take (i + 1)).flatten).length ≤ memory.length ∨ s = []) := by
  induction texts generalizing b whole i with
  | nil => rfl
  | cons s rest ih =>
      cases i with
      | zero =>
          rw [List.take_succ_cons, List.take_zero, List.flatten_singleton]
          exact congrArg some (h.fits s)
      | succ i =>
          rw [List.take_succ_cons, List.flatten_cons, ← List.append_assoc]
          exact ih (h.write s) i

theorem Keeps.finish (h : Keeps memory whole b) :
    b.finish =
      if memory.length < whole.length ∧ notice.length ≤ memory.length then
        whole.take (memory.length - notice.length) ++ notice
      else whole.take memory.length := by
  have hc := h.contents
  have ht := h.truncated
  rw [← h.size] at hc ht ⊢
  exact finish_of_take hc ht

theorem Keeps.length_finish (h : Keeps memory whole b) : b.finish.length = b.filled := by
  rw [h.finish, h.filled]
  split
  next hcut =>
      rw [List.length_append, List.length_take]
      omega
  next => exact List.length_take

/-! ### Ranges of memory -/

/-- The bytes from `start` up to `stop`, if they lie in memory. -/
def slice? (memory : Bytes) (start stop : Nat) : Option Bytes :=
  if start ≤ stop ∧ stop ≤ memory.length then some (memory.extract start stop) else none

/-- Copies a text over the bytes from `start` up to `stop`, if they lie in memory and are as many
as those of the text. -/
def copy? (memory : Bytes) (start stop : Nat) (s : Bytes) : Option Bytes :=
  if start ≤ stop ∧ stop ≤ memory.length ∧ s.length = stop - start then
    some (memory.take start ++ s ++ memory.drop stop)
  else none

/-- What a buffer is made of, where `filled` may be any number. -/
structure Raw where
  bytes : Bytes
  filled : Nat
  truncated : Bool

/-- What the buffer is made of. -/
def raw (b : FixedBuffer) : Raw := ⟨b.bytes, b.filled, b.truncated⟩

namespace Raw

/-- How much memory is not written yet. -/
def room? (r : Raw) : Option Nat :=
  if r.filled ≤ r.bytes.length then some (r.bytes.length - r.filled) else none

/-- Copies a text behind what is written, or as much of it as there is room for. -/
def write? (r : Raw) (s : Bytes) : Option (Raw × Bool) := do
  let room ← r.room?
  if room < s.length then
    let front ← slice? s 0 room
    let bytes ← copy? r.bytes r.filled r.bytes.length front
    return (⟨bytes, bytes.length, true⟩, false)
  else
    let bytes ← copy? r.bytes r.filled (r.filled + s.length) s
    return (⟨bytes, r.filled + s.length, r.truncated⟩, true)

/-- Writes every text, also behind one that did not fit. -/
def writeEach? (r : Raw) : List Bytes → Option (Raw × List Bool)
  | [] => some (r, [])
  | s :: rest => do
    let (r, ok) ← r.write? s
    let (r, oks) ← r.writeEach? rest
    return (r, ok :: oks)

/-- Copies the notice over the end of the memory if something is missing and the notice fits, and
cuts off what is not written. -/
def finish? (r : Raw) : Option Bytes :=
  if r.truncated && notice.length ≤ r.bytes.length then do
    let bytes ← copy? r.bytes (r.bytes.length - notice.length) r.bytes.length notice
    slice? bytes 0 bytes.length
  else slice? r.bytes 0 r.filled

end Raw

theorem slice?_front {n : Nat} (h : n ≤ memory.length) :
    slice? memory 0 n = some (memory.take n) := by
  rw [slice?, if_pos ⟨Nat.zero_le n, h⟩]
  rfl

/-- A text is copied where there is room for it. -/
theorem copy?_of_room {start stop : Nat} {s : Bytes} (hstop : start + s.length = stop)
    (hroom : stop ≤ memory.length) :
    copy? memory start stop s = some (memory.take start ++ s ++ memory.drop stop) :=
  if_pos ⟨by omega, hroom, by omega⟩

/-- A write stays within the memory. -/
theorem write?_raw (b : FixedBuffer) (s : Bytes) :
    b.raw.write? s = some ((b.write s).1.raw, (b.write s).2) := by
  have hb : b.filled ≤ b.size := b.filled_le
  have hroom : b.raw.room? = some (b.size - b.filled) := if_pos hb
  rw [Raw.write?, hroom, Option.bind_eq_bind, Option.bind_some]
  by_cases h : s.length ≤ b.size - b.filled
  · have hcopy : copy? b.bytes b.filled (b.filled + s.length) s =
        some (b.contents ++ s ++ b.bytes.drop (b.filled + s.length)) :=
      copy?_of_room rfl (Nat.add_le_of_le_sub' hb h)
    rw [if_neg (Nat.not_lt.2 h), write, dif_pos h]
    simp only [raw, hcopy, Option.bind_eq_bind, Option.bind_some, Option.pure_def]
  · have hfront : slice? s 0 (b.size - b.filled) = some (s.take (b.size - b.filled)) :=
      slice?_front (Nat.le_of_not_le h)
    have hlen : b.filled + (s.take (b.size - b.filled)).length = b.bytes.length := by
      rw [List.length_take, Nat.min_eq_left (Nat.le_of_not_le h)]
      exact Nat.add_sub_cancel' hb
    have hcopy : copy? b.bytes b.filled b.bytes.length (s.take (b.size - b.filled)) =
        some (b.contents ++ s.take (b.size - b.filled)) := by
      rw [copy?_of_room hlen (Nat.le_refl _), List.drop_length, List.append_nil]
      rfl
    have hs : (b.contents ++ s.take (b.size - b.filled)).length = b.size := by
      have hs := b.size_write s
      rwa [write, dif_neg h] at hs
    rw [if_pos (Nat.lt_of_not_le h), write, dif_neg h]
    simp only [raw, hfront, hcopy, hs, Option.bind_eq_bind, Option.bind_some, Option.pure_def]

theorem writeEach?_raw (b : FixedBuffer) (texts : List Bytes) :
    b.raw.writeEach? texts = some ((b.writeEach texts).1.raw, (b.writeEach texts).2) := by
  induction texts generalizing b with
  | nil => rfl
  | cons s rest ih =>
      simp only [Raw.writeEach?, write?_raw, ih, Option.bind_eq_bind, Option.bind_some,
        Option.pure_def, writeEach]

/-- The notice and what is returned stay within the memory. -/
theorem finish?_raw (b : FixedBuffer) : b.raw.finish? = some b.finish := by
  rw [Raw.finish?, finish]
  by_cases hn : (b.truncated && notice.length ≤ b.size) = true
  · have hle : notice.length ≤ b.bytes.length := of_decide_eq_true (Bool.and_eq_true_iff.1 hn).2
    have hcopy : copy? b.bytes (b.bytes.length - notice.length) b.bytes.length notice =
        some (b.bytes.take (b.size - notice.length) ++ notice) := by
      rw [copy?_of_room (Nat.sub_add_cancel hle) (Nat.le_refl _), List.drop_length,
        List.append_nil]
      rfl
    rw [if_pos hn]
    refine (if_pos hn).trans ?_
    simp only [raw, hcopy, Option.bind_eq_bind, Option.bind_some, slice?_front (Nat.le_refl _),
      List.take_length]
  · rw [if_neg hn]
    exact (if_neg hn).trans (slice?_front b.filled_le)

/-! ### The longest prefix -/

/-- **The longest prefix.**  A buffer is made over any memory, and any texts are written to it one
after the other, also behind one that did not fit; others may follow.  No write and no cut leaves
the memory.  After these texts, what is written is the longest prefix that fits of all of them
together, the memory behind it is as it was, and the buffer says that something is missing exactly
if they do not all fit.  Of each of them it was said that it fits exactly if it does together with
all those before it, or if it is empty.  The buffer is finished with what is written; but if
something is missing and the notice fits, with as many bytes as there is memory, of which the notice
is the end. -/
theorem longest_prefix_kept (memory : Bytes) (texts : List Bytes) :
    let b := ((new memory).writeEach texts).1
    let said := ((new memory).writeEach texts).2
    let whole := texts.flatten
    (∀ rest, (new memory).writeEach (texts ++ rest) =
      ((b.writeEach rest).1, said ++ (b.writeEach rest).2)) ∧
    (new memory).raw.writeEach? texts = some (b.raw, said) ∧
    b.contents = whole.take memory.length ∧
    b.filled = min memory.length whole.length ∧
    b.size = memory.length ∧
    b.bytes.drop b.filled = memory.drop b.filled ∧
    b.truncated = decide (memory.length < whole.length) ∧
    (∀ i, said[i]? = texts[i]?.map fun s =>
      decide ((texts.take (i + 1)).flatten.length ≤ memory.length ∨ s = [])) ∧
    b.raw.finish? = some b.finish ∧
    b.finish.length = b.filled ∧
    b.finish =
      if memory.length < whole.length ∧ notice.length ≤ memory.length then
        whole.take (memory.length - notice.length) ++ notice
      else whole.take memory.length := by
  intro b said whole
  have hnew : Keeps memory [] (new memory) := keeps_new memory
  have hb : Keeps memory whole b := hnew.writeEach texts
  exact ⟨writeEach_append (new memory) texts, writeEach?_raw (new memory) texts, hb.contents,
    hb.filled, hb.size, hb.behind, hb.truncated, hnew.fits_writeEach texts, finish?_raw b,
    hb.length_finish, hb.finish⟩

/-- An empty text fits into a full buffer, even behind one that did not fit. -/
example : ((new [0, 0]).writeEach [[1], [2, 3], [], [4]]).2 = [true, false, true, false] := by
  decide

end Vigil.Fault.FixedBuffer
