import Vigil.Text.Utf8

/-!
# Fault — Buffer

A buffer of fixed size over memory that was reserved beforehand.  It keeps the longest prefix of
what is written to it that fits; once something did not fit, its contents end in a notice that
says so.
-/

namespace Vigil.Fault

/-- Reserved memory, of which the first `filled` bytes are written. -/
structure FixedBuffer where
  bytes : Bytes
  filled : Nat
  /-- Whether something written did not fit. -/
  truncated : Bool
  filled_le : filled ≤ bytes.length

namespace FixedBuffer

/-- A buffer over `bytes`, nothing being written yet. -/
def new (bytes : Bytes) : FixedBuffer := ⟨bytes, 0, false, Nat.zero_le _⟩

/-- How much memory there is. -/
def size (b : FixedBuffer) : Nat := b.bytes.length

/-- What has been written. -/
def contents (b : FixedBuffer) : Bytes := b.bytes.take b.filled

/-- Writes `s` after what is there, or as much of it as fits; says whether all of it did. -/
def write (b : FixedBuffer) (s : Bytes) : FixedBuffer × Bool :=
  if h : s.length ≤ b.size - b.filled then
    (⟨b.contents ++ s ++ b.bytes.drop (b.filled + s.length), b.filled + s.length, b.truncated, by
      have := b.filled_le
      simp only [contents, size] at *
      simp; omega⟩, true)
  else
    (⟨b.contents ++ s.take (b.size - b.filled), b.size, true, by
      have := b.filled_le
      simp only [contents, size] at *
      simp; omega⟩, false)

/-- Writes pieces until one does not fit; says whether all of them did. -/
def writeAll (b : FixedBuffer) : List Bytes → FixedBuffer × Bool
  | [] => (b, true)
  | s :: rest =>
    match b.write s with
    | (b, true) => b.writeAll rest
    | (b, false) => (b, false)

/-- What stands at the end of contents that are not complete. -/
def notice : Bytes := Text.encode "\n[report truncated]\n".toList

/-- The contents, with the notice over their end if something is missing and the notice fits. -/
def finish (b : FixedBuffer) : Bytes :=
  if b.truncated && notice.length ≤ b.size then b.bytes.take (b.size - notice.length) ++ notice
  else b.contents

end FixedBuffer
end Vigil.Fault
