/-!
# Number — Digits

Decimal digits: writing a number with as many digits as it needs or with a fixed width, and
reading a run of digits.
-/

namespace Vigil.Number

/-- The digit for `n % 10`. -/
def digit (n : Nat) : Char := Char.ofNat (48 + n % 10)

/-- One of the characters `0` to `9`. -/
def isDigit (c : Char) : Bool := '0' ≤ c && c ≤ '9'

/-- The value of a digit. -/
def digitValue (c : Char) : Nat := c.toNat - 48

/-- The last `width` digits of `n`, with leading zeros. -/
def fixed : Nat → Nat → List Char
  | 0, _ => []
  | width + 1, n => fixed width (n / 10) ++ [digit n]

/-- `n` in decimal, without leading zeros. -/
def decimal (n : Nat) : List Char := Nat.toDigits 10 n

/-- `n` in decimal with at least `width` digits. -/
def padded (width n : Nat) : List Char :=
  List.replicate (width - (decimal n).length) '0' ++ decimal n

/-- An integer in decimal, with a sign only if it is negative. -/
def signed : Int → List Char
  | .ofNat n => decimal n
  | .negSucc n => '-' :: decimal (n + 1)

/-- The value of a run of digits. -/
def ofDigits (s : List Char) : Nat := s.foldl (fun n c => n * 10 + digitValue c) 0

/-- Reads exactly `width` digits from the front. -/
def takeDigits? (width : Nat) (s : List Char) : Option (Nat × List Char) :=
  let run := s.take width
  if run.length = width && run.all isDigit then some (ofDigits run, s.drop width) else none

end Vigil.Number
