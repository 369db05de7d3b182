import Vigil.Number.Binary64

/-!
# Number — Shortest

The shortest decimal that reads back as a given `Binary64`, and its text in a JSON document.
-/

namespace Vigil.Number.Binary64

/-- The decimal `digits * 10 ^ exponent`. -/
structure Decimal where
  digits : Nat
  exponent : Int
  deriving DecidableEq, Repr

/-- The reals that round to `x`, as numerators over `4 * x.den`: the two bounds, which
themselves round to `x` iff its mantissa is even. -/
def interval (x : Binary64) : Nat × Nat :=
  let unit := Nat.pow 2 x.exponent.toNat
  let below := if x.mantissa = Nat.pow 2 52 then unit else 2 * unit
  (4 * x.num - below, 4 * x.num + 2 * unit)

/-- Whether the decimal `d * 10 ^ e` rounds to `x`. -/
def reads (x : Binary64) (d : Nat) (e : Int) : Bool :=
  let (lo, hi) := x.interval
  let v := 4 * x.den * d * Nat.pow 10 e.toNat
  let s := Nat.pow 10 (-e).toNat
  if x.mantissa % 2 = 0 then lo * s ≤ v && v ≤ hi * s else lo * s < v && v < hi * s

/-- The neighbour of `x` on the grid of multiples of `10 ^ e` that rounds to it and is nearest,
if one does. -/
def onGrid? (x : Binary64) (e : Int) : Option Nat :=
  let n := x.num * Nat.pow 10 (-e).toNat
  let m := x.den * Nat.pow 10 e.toNat
  let near := roundDiv n m
  let far := if near = n / m then near + 1 else n / m
  if x.reads near e then some near
  else if x.reads far e then some far
  else none

/-- The exponent `k` with `10 ^ (k - 1) ≤ x < 10 ^ k`. -/
def magnitude (x : Binary64) : Int :=
  if x.den ≤ x.num then (decimal (x.num / x.den)).length
  else 1 - ((decimal ((x.den - 1) / x.num)).length : Int)

/-- Tries ever finer grids, `fuel` of them. -/
def shortestFrom (x : Binary64) : Nat → Int → Decimal
  | 0, e => ⟨roundDiv (x.num * Nat.pow 10 (-e).toNat) (x.den * Nat.pow 10 e.toNat), e⟩
  | fuel + 1, e => match x.onGrid? e with
    | some d => ⟨d, e⟩
    | none => shortestFrom x fuel (e - 1)

/-- Moves trailing zeros of the digits to the exponent. -/
def Decimal.strip : Nat → Decimal → Decimal
  | 0, d => d
  | fuel + 1, d =>
    if d.digits % 10 = 0 && d.digits ≠ 0 then strip fuel ⟨d.digits / 10, d.exponent + 1⟩ else d

/-- The shortest decimal that rounds to `x`, and of those the nearest: seventeen digits always
suffice. -/
def shortest (x : Binary64) : Decimal :=
  if x.mantissa = 0 then ⟨0, 0⟩ else (shortestFrom x 17 (x.magnitude - 1)).strip 400

/-- The text of `x` in a JSON document: positional between `1e-5` and `1e16`, with `.0` after a
whole number, and with an exponent outside. -/
def toJson (x : Binary64) : List Char :=
  let d := x.shortest
  let s := decimal d.digits
  let k : Int := s.length + d.exponent
  if 0 ≤ d.exponent && k ≤ 16 then s ++ List.replicate d.exponent.toNat '0' ++ ['.', '0']
  else if 0 < k && k ≤ 16 then s.take k.toNat ++ '.' :: s.drop k.toNat
  else if -5 < k && k ≤ 0 then '0' :: '.' :: List.replicate (-k).toNat '0' ++ s
  else
    let rest := s.drop 1
    s.take 1 ++ (if rest.isEmpty then [] else '.' :: rest) ++ 'e' :: signed (k - 1)

end Vigil.Number.Binary64
