import Vigil.Fault.Report

/-!
# Fault — a block in a buffer of fixed size

A buffer holds the longest prefix that fits of all that was written to it (`contents_writeAll`),
and it says so exactly when something is missing (`fits_writeAll`, `truncated_writeAll`).  Where
the writer cut the text into pieces, and after which of them it stopped, cannot be seen.

**A cut block** (`writeTo_eq_block`): a buffer to which a block was written ends up as the whole
block if that fits; otherwise as a prefix of it that leaves room for the notice, and the notice;
and as no more than a prefix where even the notice has no room.
-/

namespace Vigil
namespace Fault.FixedBuffer

/-! ### One write -/

theorem length_contents (b : FixedBuffer) : b.contents.length = b.filled := by
  rw [contents, List.length_take]
  exact Nat.min_eq_left b.filled_le

theorem length_contents_le (b : FixedBuffer) : b.contents.length ≤ b.size := by
  rw [length_contents]
  exact b.filled_le

@[simp] theorem contents_new (memory : Bytes) : (new memory).contents = [] := rfl

@[simp] theorem size_new (memory : Bytes) : (new memory).size = memory.length := rfl

@[simp] theorem truncated_new (memory : Bytes) : (new memory).truncated = false := rfl

theorem fits_write (b : FixedBuffer) (s : Bytes) :
    (b.write s).2 = decide (b.contents.length + s.length ≤ b.size) := by
  have hb := b.length_contents_le
  rw [length_contents] at *
  rw [write]
  split
  · exact (decide_eq_true (by omega)).symm
  · exact (decide_eq_false (by omega)).symm

theorem truncated_write (b : FixedBuffer) (s : Bytes) :
    (b.write s).1.truncated = (b.truncated || !(b.write s).2) := by
  rw [write]
  split <;> simp

theorem size_write (b : FixedBuffer) (s : Bytes) : (b.write s).1.size = b.size := by
  have hl := b.length_contents
  have hf : b.filled ≤ b.size := b.filled_le
  rw [write]
  split
  next h =>
      have hd : (b.bytes.drop (b.filled + s.length)).length = b.size - (b.filled + s.length) :=
        List.length_drop
      show (b.contents ++ s ++ b.bytes.drop (b.filled + s.length)).length = b.size
      rw [List.length_append, List.length_append, hl, hd]
      omega
  next h =>
      show (b.contents ++ s.take (b.size - b.filled)).length = b.size
      rw [List.length_append, List.length_take, hl]
      omega

/-- A write leaves the longest prefix of both texts that fits. -/
theorem contents_write (b : FixedBuffer) (s : Bytes) :
    (b.write s).1.contents = (b.contents ++ s).take b.size := by
  have hl := b.length_contents
  have hf := b.filled_le
  rw [write]
  split
  next h =>
      have hlen : (b.contents ++ s).length = b.filled + s.length := by simp [hl]
      have hfit : (b.contents ++ s).length ≤ b.size := by simp only [size] at *; omega
      rw [List.take_of_length_le hfit]
      exact List.take_left' hlen
  next h =>
      have hroom : (b.contents ++ s.take (b.size - b.filled)).length = b.size := by
        simp only [List.length_append, List.length_take, hl, size] at *
        omega
      rw [List.take_append, hl, List.take_of_length_le (i := b.size) b.length_contents_le]
      exact List.take_of_length_le (Nat.le_of_eq hroom)

/-! ### Several writes -/

theorem size_writeAll (b : FixedBuffer) (pieces : List Bytes) :
    (b.writeAll pieces).1.size = b.size := by
  induction pieces generalizing b with
  | nil => rfl
  | cons s rest ih =>
      have hs := b.size_write s
      rw [writeAll]
      split
      next b' h => rw [ih, ← hs, h]
      next b' h => rw [← hs, h]

/-- All pieces fit exactly if their concatenation does. -/
theorem fits_writeAll (b : FixedBuffer) (pieces : List Bytes) :
    (b.writeAll pieces).2 = decide (b.contents.length + pieces.flatten.length ≤ b.size) := by
  induction pieces generalizing b with
  | nil => exact (decide_eq_true b.length_contents_le).symm
  | cons s rest ih =>
      have hc := b.contents_write s
      have hs := b.size_write s
      have hw := b.fits_write s
      rw [writeAll, List.flatten_cons, List.length_append]
      split
      next b' h =>
          rw [h] at hc hs hw
          have hfit : b.contents.length + s.length ≤ b.size := of_decide_eq_true hw.symm
          rw [ih, hs, hc, List.take_of_length_le (by simpa using hfit), List.length_append,
            Nat.add_assoc]
      next b' h =>
          rw [h] at hw
          have hno : ¬ b.contents.length + s.length ≤ b.size := of_decide_eq_false hw.symm
          exact (decide_eq_false (by omega)).symm

/-- Something is missing exactly if something did not fit. -/
theorem truncated_writeAll (b : FixedBuffer) (pieces : List Bytes) :
    (b.writeAll pieces).1.truncated = (b.truncated || !(b.writeAll pieces).2) := by
  induction pieces generalizing b with
  | nil => simp [writeAll]
  | cons s rest ih =>
      have ht := b.truncated_write s
      rw [writeAll]
      split
      next b' h =>
          rw [h] at ht
          rw [ih, ht]
          simp
      next b' h =>
          rw [h] at ht
          exact ht

/-- **The longest prefix that fits**, wherever the writer cuts the text into pieces. -/
theorem contents_writeAll (b : FixedBuffer) (pieces : List Bytes) :
    (b.writeAll pieces).1.contents = (b.contents ++ pieces.flatten).take b.size := by
  induction pieces generalizing b with
  | nil =>
      rw [List.flatten_nil, List.append_nil]
      exact (List.take_of_length_le b.length_contents_le).symm
  | cons s rest ih =>
      have hc := b.contents_write s
      have hs := b.size_write s
      have hw := b.fits_write s
      rw [writeAll, List.flatten_cons, ← List.append_assoc]
      split
      next b' h =>
          rw [h] at hc hs hw
          have hfit : (b.contents ++ s).length ≤ b.size := by
            rw [List.length_append]
            exact of_decide_eq_true hw.symm
          rw [ih, hs, hc, List.take_of_length_le hfit]
      next b' h =>
          rw [h] at hc hw
          have hno : ¬ b.contents.length + s.length ≤ b.size := of_decide_eq_false hw.symm
          have hlong : b.size ≤ (b.contents ++ s).length := by
            rw [List.length_append]
            omega
          exact hc.trans (List.take_append_of_le_length hlong).symm

/-! ### The notice -/

/-- A buffer with the longest prefix of a text is finished with it, or with the notice over its end
if something is missing and the notice fits. -/
theorem finish_of_take {b : FixedBuffer} {whole : Bytes} (hc : b.contents = whole.take b.size)
    (ht : b.truncated = decide (b.size < whole.length)) :
    b.finish =
      if b.size < whole.length ∧ notice.length ≤ b.size then
        whole.take (b.size - notice.length) ++ notice
      else whole.take b.size := by
  rw [finish, ht, hc]
  by_cases hcut : b.size < whole.length
  · have hfull : b.filled = b.bytes.length := by
      rw [← length_contents, hc, List.length_take]
      exact Nat.min_eq_left (Nat.le_of_lt hcut)
    have hbytes : b.bytes = whole.take b.size := by
      rw [← hc, contents, hfull]
      exact List.take_length.symm
    rw [hbytes, List.take_take, Nat.min_eq_left (Nat.sub_le _ _)]
    simp [hcut]
  · simp [hcut]

/-- What a buffer that starts empty makes of a text written in pieces. -/
theorem finish_writeAll (memory : Bytes) (pieces : List Bytes) :
    ((new memory).writeAll pieces).1.finish =
      if pieces.flatten.length ≤ memory.length then pieces.flatten
      else if notice.length ≤ memory.length then
        pieces.flatten.take (memory.length - notice.length) ++ notice
      else pieces.flatten.take memory.length := by
  have hc := (new memory).contents_writeAll pieces
  have hs := (new memory).size_writeAll pieces
  have ht := (new memory).truncated_writeAll pieces
  rw [fits_writeAll, truncated_new, Bool.false_or, ← decide_not] at ht
  simp only [contents_new, size_new, List.nil_append, List.length_nil, Nat.zero_add,
    Nat.not_le] at hc hs ht
  rw [← hs] at hc ht
  rw [finish_of_take hc ht, hs]
  by_cases hfit : pieces.flatten.length ≤ memory.length
  · rw [if_neg fun hcut => absurd hcut.1 (Nat.not_lt.2 hfit), if_pos hfit]
    exact List.take_of_length_le hfit
  · rw [if_neg hfit]
    simp only [Nat.lt_of_not_le hfit, true_and]

end Fault.FixedBuffer

namespace Fault.Report
open Text

/-- **A cut block.**  A block is written to memory of any size, whatever its section about tasks
is (any registry, in use or not, its tasks met in any order): the writer is told whether all of
it fitted, and what is left is the block, or as much of its front as the notice leaves room for
with the notice behind, or as much of its front as there is room for if the notice has none. -/
theorem writeTo_eq_block (memory : Bytes) (time : Instant) (fault : Fault)
    (statistics : List (List Char)) :
    let whole := encode (block time fault statistics)
    let written := writeTo (.new memory) time fault statistics
    written.2 = decide (whole.length ≤ memory.length) ∧
    written.1.truncated = decide (memory.length < whole.length) ∧
    written.1.finish =
      if whole.length ≤ memory.length then whole
      else if FixedBuffer.notice.length ≤ memory.length then
        whole.take (memory.length - FixedBuffer.notice.length) ++ FixedBuffer.notice
      else whole.take memory.length := by
  intro whole written
  have hwhole : whole = ((pieces time fault statistics).map encode).flatten := encode_flatten _
  have hfits : written.2 = decide (whole.length ≤ memory.length) := by
    rw [hwhole, ← Nat.zero_add (List.length _)]
    exact FixedBuffer.fits_writeAll (.new memory) _
  have hcut : written.1.truncated = !written.2 := FixedBuffer.truncated_writeAll (.new memory) _
  refine ⟨hfits, ?_, ?_⟩
  · rw [hcut, hfits, ← decide_not]
    simp only [Nat.not_le]
  · rw [hwhole]
    exact FixedBuffer.finish_writeAll memory _

end Fault.Report
end Vigil
