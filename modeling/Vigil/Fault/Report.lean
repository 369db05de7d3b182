import Vigil.Calendar.Rfc3339
import Vigil.Fault.Basic
import Vigil.Fault.Buffer
import Vigil.Text.Blank

/-!
# Fault — Report

The block that a crash log holds for each fault.  `pieces` is the block as it is written piece
by piece, `block` as a whole, and `writeTo` within a buffer of fixed size; `split` finds the
blocks of a log again.
-/

namespace Vigil.Fault.Report
open Text

/-- The line that opens a block, closes its header and ends it. -/
def delimiter : List Char := List.replicate 40 '='

/-- How the header begins. -/
def headerMark : List Char := "Crash Report - ".toList

/-- The block for a fault at `time` with the section about tasks that `statistics` gives. -/
def pieces (time : Instant) (fault : Fault) (statistics : List (List Char)) : List (List Char) :=
  [delimiter, ['\n'], headerMark, time.toHeader, ['\n'], delimiter, ['\n'],
    "Fault: ".toList, fault.text, ['\n'], ['\n']] ++
    statistics ++ [delimiter, ['\n'], ['\n']]

/-- The whole block. -/
def block (time : Instant) (fault : Fault) (statistics : List (List Char)) : List Char :=
  (pieces time fault statistics).flatten

/-- Writes the block to a buffer; says whether it fitted. -/
def writeTo (b : FixedBuffer) (time : Instant) (fault : Fault) (statistics : List (List Char)) :
    FixedBuffer × Bool :=
  b.writeAll ((pieces time fault statistics).map encode)

/-- What every block begins with. -/
def separator : List Char := delimiter ++ '\n' :: headerMark

/-- Cuts a text before every separator: what comes before the first, and the pieces that begin
with one. -/
def cut : List Char → List Char × List (List Char)
  | [] => ([], [])
  | c :: rest =>
    let (front, found) := cut rest
    if separator.isPrefixOf (c :: rest) then ([], (c :: front) :: found) else (c :: front, found)

/-- The blocks of a log, without the blanks at their ends; what comes before the first is
dropped. -/
def split (log : List Char) : List (List Char) := (cut log).2.map trimEnd

end Vigil.Fault.Report
