import Vigil.Calendar.Date
import Vigil.Toml.Basic
import Vigil.Toml.Text

/-!
# Toml — Number

Integers, numbers with a fraction, and dates and times.
-/

namespace Vigil.Toml.Reader
open Number

/-- Takes digits of one kind, single underscores between them. -/
def digits (test : Char → Bool) : Reader (List Char) := do
  let first ← one test
  let rest ← all (one test <|> (do char '_'; one test))
  pure (first :: rest)

/-- Takes a decimal integer without leading zeros, perhaps with a sign: whether it is negative,
and its digits. -/
def decimalInteger : Reader (Bool × List Char) := do
  let sign ← option (one fun c => c = '+' || c = '-')
  let s ← (do char '0'; pure ['0']) <|> digits isDigit
  pure (sign = some '-', s)

/-- An integer of 64 bits with its sign. -/
def ofInteger (n : Int) : Reader Toml :=
  if Int64.minValue.toInt ≤ n && n ≤ Int64.maxValue.toInt then pure (.integer n) else failure

/-- Takes an integer: `0x`, `0o` and `0b` begin one of another base, which has no sign. -/
def integer : Reader Toml := do
  match ← peek with
  | '0' :: 'x' :: _ => do
    word ['0', 'x']
    ofInteger (ofHex (← digits fun c => (hexValue? c).isSome))
  | '0' :: 'o' :: _ => do
    word ['0', 'o']
    ofInteger ((← digits fun c => '0' ≤ c && c ≤ '7').foldl (fun n c => n * 8 + digitValue c) 0)
  | '0' :: 'b' :: _ => do
    word ['0', 'b']
    ofInteger ((← digits fun c => c = '0' || c = '1').foldl (fun n c => n * 2 + digitValue c) 0)
  | _ => do
    let (negative, s) ← decimalInteger
    ofInteger (if negative then -(ofDigits s : Int) else ofDigits s)

/-- Whether `digits * 10 ^ exponent` is past the greatest number of 64 bits, a tie with the next
power of two being past it. -/
def overflows (digits : Nat) (exponent : Int) : Bool :=
  let places : Int := (decimal digits).length + exponent
  if digits = 0 || places < 309 then false
  else if 309 < places then true
  else
    (Nat.pow 2 1024 - Nat.pow 2 970) * Nat.pow 10 (-exponent).toNat ≤
      digits * Nat.pow 10 exponent.toNat

/-- Takes an exponent. -/
def exponent : Reader Int := do
  let _ ← one fun c => c = 'e' || c = 'E'
  let sign ← option (one fun c => c = '+' || c = '-')
  let n := ofDigits (← digits isDigit)
  pure (if sign = some '-' then -(n : Int) else n)

/-- Takes a number with a fraction, an exponent or both; too great a positive one is refused. -/
def fractional : Reader Toml := do
  let (negative, whole) ← decimalInteger
  let fraction ← option (do char '.'; digits isDigit)
  let power ← if fraction.isSome then option exponent else some <$> exponent
  let places := (fraction.getD []).length
  if !negative && overflows (ofDigits (whole ++ fraction.getD [])) (power.getD 0 - places) then
    failure
  else pure .fractional

/-- Takes an infinity or no number at all. -/
def special : Reader Toml := do
  let _ ← option (one fun c => c = '+' || c = '-')
  word "inf".toList <|> word "nan".toList
  pure .fractional

/-- Takes two digits of a number between two bounds. -/
def twoDigits (least greatest : Nat) : Reader Nat := do
  let n := ofDigits (← exactly 2 isDigit)
  if least ≤ n && n ≤ greatest then pure n else failure

/-- Takes a date. -/
def date : Reader Unit := do
  let year := ofDigits (← exactly 4 isDigit)
  char '-'
  let month ← twoDigits 1 12
  char '-'
  let day ← twoDigits 1 31
  if Date.valid ⟨year, month, day⟩ then pure () else failure

/-- Takes a time of day. -/
def timeOfDay : Reader Unit := do
  let _ ← twoDigits 0 23
  char ':'
  let _ ← twoDigits 0 59
  char ':'
  let _ ← twoDigits 0 60
  let _ ← option (do char '.'; takeWhile1 isDigit)

/-- Takes an offset from universal time. -/
def offset : Reader Unit := do
  (do let _ ← one fun c => c = 'Z' || c = 'z') <|> (do
    let _ ← one fun c => c = '+' || c = '-'
    let _ ← twoDigits 0 23
    char ':'
    let _ ← twoDigits 0 59)

/-- Takes a date, a time, or a date with a time and perhaps an offset. -/
def moment : Reader Toml := do
  (do
    date
    let _ ← option (do
      let _ ← one fun c => c = 'T' || c = 't' || c = ' '
      timeOfDay
      let _ ← option offset)) <|> timeOfDay
  pure .moment

end Vigil.Toml.Reader
