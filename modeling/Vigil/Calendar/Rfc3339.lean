import Vigil.Calendar.Instant
import Vigil.Number.Digits

/-!
# Calendar — Rfc3339

Instants as RFC 3339 text: `Instant.toRfc3339` writes one with as many digits of the fraction as
it needs, `Instant.toHeader` one cut to the millisecond, and `Instant.ofRfc3339?` reads one with
any offset.
-/

namespace Vigil.Instant
open Number

/-- The year in four digits, with a sign outside 0 to 9999. -/
def yearText (year : Int) : List Char :=
  if 0 ≤ year && year ≤ 9999 then fixed 4 year.toNat
  else (if year < 0 then '-' else '+') :: padded 4 year.natAbs

/-- The fraction of a second after its point, in the shortest of 0, 3, 6 and 9 digits that is
exact. -/
def fraction (nanos : Nat) : List Char :=
  if nanos = 0 then []
  else if nanos % 1000000 = 0 then '.' :: fixed 3 (nanos / 1000000)
  else if nanos % 1000 = 0 then '.' :: fixed 6 (nanos / 1000)
  else '.' :: fixed 9 nanos

/-- The text of an instant with `zone`, a spelling of universal time, at its end. -/
def toRfc3339 (zone : List Char) (t : Instant) : List Char :=
  let (hour, minute, second) := t.clock
  let leap := 1000000000 ≤ t.nanos
  yearText t.date.year ++ '-' :: fixed 2 t.date.month ++ '-' :: fixed 2 t.date.day ++
    'T' :: fixed 2 hour ++ ':' :: fixed 2 minute ++
    ':' :: fixed 2 (if leap then second + 1 else second) ++
    fraction (if leap then t.nanos - 1000000000 else t.nanos) ++ zone

/-- Universal time as a numeric offset. -/
def numericZone : List Char := ['+', '0', '0', ':', '0', '0']

/-- Universal time as a letter. -/
def letterZone : List Char := ['Z']

/-- The year in at least four characters, its sign among them. -/
def headerYear : Int → List Char
  | .ofNat n => padded 4 n
  | .negSucc n => '-' :: padded 3 (n + 1)

/-- The text of an instant cut to the millisecond, a leap second standing still at the last
millisecond before it. -/
def toHeader (t : Instant) : List Char :=
  let (hour, minute, second) := t.clock
  headerYear t.date.year ++ '-' :: fixed 2 t.date.month ++ '-' :: fixed 2 t.date.day ++
    'T' :: fixed 2 hour ++ ':' :: fixed 2 minute ++ ':' :: fixed 2 second ++
    '.' :: fixed 3 (min (t.nanos / 1000000) 999) ++ letterZone

/-- Drops `c` from the front. -/
def expect? (c : Char) : List Char → Option (List Char)
  | [] => none
  | d :: s => if d = c then some s else none

/-- Reads the nanoseconds after a point: nine digits count and further ones are read over. -/
def takeFraction? (s : List Char) : Option (Nat × List Char) :=
  let run := (s.takeWhile isDigit)
  if run.isEmpty then none
  else
    let kept := run.take 9
    some (ofDigits kept * Nat.pow 10 (9 - kept.length), s.dropWhile isDigit)

/-- Reads an offset from universal time in minutes. -/
def takeZone? : List Char → Option (Int × List Char)
  | [] => none
  | c :: s =>
    if c = 'Z' || c = 'z' then some (0, s)
    else if c = '+' || c = '-' || c = '\u2212' then do
      let (hours, s) ← takeDigits? 2 s
      let s ← expect? ':' s
      let (minutes, s) ← takeDigits? 2 s
      if hours ≤ 23 && minutes ≤ 59 then
        let n : Int := hours * 60 + minutes
        some (if c = '+' then n else -n, s)
      else none
    else none

/-- Reads an instant; nothing may follow it. -/
def ofRfc3339? (s : List Char) : Option Instant := do
  let (year, s) ← takeDigits? 4 s
  let s ← expect? '-' s
  let (month, s) ← takeDigits? 2 s
  let s ← expect? '-' s
  let (day, s) ← takeDigits? 2 s
  let s ← (match s with
    | c :: rest => if c = 'T' || c = 't' || c = ' ' then some rest else none
    | [] => none)
  let (hour, s) ← takeDigits? 2 s
  let s ← expect? ':' s
  let (minute, s) ← takeDigits? 2 s
  let s ← expect? ':' s
  let (second, s) ← takeDigits? 2 s
  let (nanos, s) ← (match s with
    | '.' :: rest => takeFraction? rest
    | _ => some (0, s))
  let (zone, s) ← takeZone? s
  let date : Date := ⟨year, month, day⟩
  if s.isEmpty && date.valid && hour ≤ 23 && minute ≤ 59 && second ≤ 60 then
    let time : Nat := hour * 3600 + minute * 60 + min second 59
    ofUnix? (date.days * 86400 + time - zone * 60)
      (if second = 60 then nanos + 1000000000 else nanos)
  else none

end Vigil.Instant
