/-!
# Text — Utf8

Texts as bytes.  `encode` writes a text in UTF-8, `decode?` reads bytes that are well formed,
and `decodeLossy` reads any bytes, with U+FFFD in place of each maximal ill-formed piece.
-/

namespace Vigil

/-- The contents of a file or buffer. -/
abbrev Bytes := List UInt8

namespace Text

/-- The bytes of a text in UTF-8. -/
def encode (s : List Char) : Bytes := s.flatMap String.utf8EncodeChar

/-- The pieces of a text, each in UTF-8, are the text in UTF-8. -/
theorem encode_flatten (pieces : List (List Char)) :
    encode pieces.flatten = (pieces.map encode).flatten := by
  induction pieces with
  | nil => rfl
  | cons s rest ih =>
      rw [List.flatten_cons, List.map_cons, List.flatten_cons, ← ih]
      exact List.flatMap_append

/-- A byte that continues a character. -/
def isContinuation (b : UInt8) : Bool := 0x80 ≤ b && b ≤ 0xBF

/-- Whether `b` may follow the lead byte `a` of a character of two or more bytes: overlong
forms, surrogates and code points past U+10FFFF are refused at the second byte. -/
def isSecond (a b : UInt8) : Bool :=
  if a < 0xC2 || 0xF4 < a then false
  else if a == 0xE0 then 0xA0 ≤ b && b ≤ 0xBF
  else if a == 0xED then 0x80 ≤ b && b ≤ 0x9F
  else if a == 0xF0 then 0x90 ≤ b && b ≤ 0xBF
  else if a == 0xF4 then 0x80 ≤ b && b ≤ 0x8F
  else isContinuation b

/-- The six low bits of a continuation byte. -/
def low (b : UInt8) : Nat := b.toNat % 64

/-- Reads bytes from the left: a character where one is well formed, `none` for each maximal
ill-formed piece. -/
def scan : Bytes → List (Option Char)
  | [] => []
  | a :: s₁ =>
    if a < 0x80 then some (Char.ofNat a.toNat) :: scan s₁
    else match s₁ with
      | [] => [none]
      | b :: s₂ =>
        if !isSecond a b then none :: scan (b :: s₂)
        else if a < 0xE0 then some (Char.ofNat (a.toNat % 32 * 64 + low b)) :: scan s₂
        else match s₂ with
          | [] => [none]
          | c :: s₃ =>
            if !isContinuation c then none :: scan (c :: s₃)
            else if a < 0xF0 then
              some (Char.ofNat (a.toNat % 16 * 4096 + low b * 64 + low c)) :: scan s₃
            else match s₃ with
              | [] => [none]
              | d :: s₄ =>
                if !isContinuation d then none :: scan (d :: s₄)
                else some (Char.ofNat
                  (a.toNat % 8 * 262144 + low b * 4096 + low c * 64 + low d)) :: scan s₄

/-- The text of well-formed bytes, `none` for any others. -/
def decode? (b : Bytes) : Option (List Char) := (scan b).mapM id

/-- The text of any bytes, U+FFFD standing for each maximal ill-formed piece. -/
def decodeLossy (b : Bytes) : List Char := (scan b).map (·.getD '\uFFFD')

end Text
end Vigil
