import Vigil.Number.Digits

/-!
# Number — Binary64

Nonnegative floating-point numbers with a significand of 53 bits, as exact values `mantissa * 2
^ exponent`.  Every operation rounds the exact result to the nearest such number, a tie going to
the even mantissa; no input of this library leaves the exponent range, so there is none.
-/

namespace Vigil.Number

/-- The quotient `num / den` rounded to the nearest natural number, a tie going to the
even one. -/
def roundDiv (num den : Nat) : Nat :=
  let q := num / den
  let r := num % den
  if 2 * r < den then q
  else if den < 2 * r then q + 1
  else q + q % 2

/-- The number `mantissa * 2 ^ exponent`. -/
structure Binary64 where
  mantissa : Nat
  exponent : Int
  deriving DecidableEq, Repr

namespace Binary64

/-- The value is `num / den`. -/
def num (x : Binary64) : Nat := x.mantissa * Nat.pow 2 x.exponent.toNat

/-- The value is `num / den`. -/
def den (x : Binary64) : Nat := Nat.pow 2 (-x.exponent).toNat

/-- The number nearest to `num / den`. -/
def ofRatio (num den : Nat) : Binary64 :=
  if num = 0 then ⟨0, 0⟩
  else
    let e : Int := (num.log2 : Int) - den.log2 - 52
    let e :=
      if num * Nat.pow 2 (-e).toNat < Nat.pow 2 52 * (den * Nat.pow 2 e.toNat) then e - 1 else e
    let m := roundDiv (num * Nat.pow 2 (-e).toNat) (den * Nat.pow 2 e.toNat)
    if m = Nat.pow 2 53 then ⟨Nat.pow 2 52, e + 1⟩ else ⟨m, e⟩

/-- The number nearest to `n`. -/
def ofNat (n : Nat) : Binary64 := ofRatio n 1

/-- The rounded sum. -/
def add (x y : Binary64) : Binary64 := ofRatio (x.num * y.den + y.num * x.den) (x.den * y.den)

/-- The rounded product. -/
def mul (x y : Binary64) : Binary64 := ofRatio (x.num * y.num) (x.den * y.den)

/-- A span of nanoseconds in seconds: the whole seconds and the fraction are rounded on their
own, then added. -/
def seconds (nanos : Nat) : Binary64 :=
  (ofNat (nanos / 1000000000)).add (ofRatio (nanos % 1000000000) 1000000000)

/-- The exact value with `places` digits after the point, a tie going to the even digit. -/
def toFixed (places : Nat) (x : Binary64) : List Char :=
  let n := roundDiv (x.num * Nat.pow 10 places) x.den
  decimal (n / Nat.pow 10 places) ++ '.' :: fixed places n

end Binary64
end Vigil.Number
