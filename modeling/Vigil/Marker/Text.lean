import Vigil.Marker.Basic
import Vigil.Text.Blank
import Vigil.Text.Lines

/-!
# Marker — Text

The text of a marker file: one line per field, `toText` writing it and `parse?` reading it.  A
reader takes the lines in any order, passes over lines of other keys, and lets the last line of
a key decide.
-/

namespace Vigil.Marker
open Text Number

/-- The key of the line with the start of the session. -/
def startKey : List Char := "Session started".toList

/-- The key of the line with the process id. -/
def pidKey : List Char := "PID".toList

/-- The key of the line with the version. -/
def versionKey : List Char := "Version".toList

/-- A line of a marker file. -/
def line (key value : List Char) : List Char := key ++ ':' :: ' ' :: value ++ ['\n']

/-- The text of a marker file. -/
def toText (m : Marker) : List Char :=
  line startKey (m.start.toRfc3339 Instant.numericZone) ++
    line pidKey (decimal m.pid.toNat) ++ line versionKey m.version.toList

/-- Reads a process id: digits, perhaps after a plus sign, of a number below `2 ^ 32`. -/
def parsePid? (s : List Char) : Option UInt32 :=
  let digits := match s with
    | '+' :: rest => rest
    | _ => s
  if digits.isEmpty || !digits.all isDigit then none
  else
    let n := ofDigits digits
    if n < UInt32.size then some (UInt32.ofNat n) else none

/-- What the lines read so far say about each field. -/
structure Draft where
  start : Option Instant := none
  pid : Option UInt32 := none
  version : Option String := none
  deriving DecidableEq

/-- Takes in one more line; a field that does not read unsets what an earlier line gave. -/
def Draft.read (d : Draft) (line : List Char) : Draft :=
  match splitOnce? ':' line with
  | none => d
  | some (key, value) =>
    let key := trim key
    let value := trim value
    if key = startKey then { d with start := Instant.ofRfc3339? value }
    else if key = pidKey then { d with pid := parsePid? value }
    else if key = versionKey then { d with version := some (String.ofList value) }
    else d

/-- The marker of a draft in which every field is set. -/
def Draft.marker? (d : Draft) : Option Marker := do
  some ⟨← d.start, ← d.pid, ← d.version⟩

/-- Reads the text of a marker file. -/
def parse? (raw : List Char) : Option Marker :=
  ((lines raw).foldl Draft.read {}).marker?

end Vigil.Marker
