import Vigil.Number.Binary64
import Vigil.Task.Registry

/-!
# Task — Statistics

The section of a crash report about tasks: their counts, and a line for each pending one.  It
comes in the pieces in which it is written, since a writer may run out of room after any of
them.
-/

namespace Vigil.Task.Statistics
open Number

/-- A line with a count. -/
def countLine (label : String) (n : Nat) : List (List Char) :=
  ["  ".toList, label.toList, ": ".toList, decimal n, ['\n']]

/-- The line of a pending task, its age in tenths of a second. -/
def orphanLine (now : Tick) (t : Record) : List (List Char) :=
  ["  - [".toList, t.id.toList, "] ".toList, t.name.toList, " (age: ".toList,
    (Binary64.seconds (t.age now)).toFixed 1, "s)\n".toList]

/-- The section for tasks met in a given order. -/
def ofRecords (records : List Record) (now : Tick) : List (List Char) :=
  let orphans := records.filter (·.isOrphaned)
  ["Task Statistics:\n".toList] ++
    countLine "Total" records.length ++
    countLine "Completed" (records.countP (·.outcome matches .succeeded)) ++
    countLine "Failed" (records.countP (·.outcome matches .failed _)) ++
    countLine "Cancelled" (records.countP (·.outcome matches .cancelled _)) ++
    countLine "Orphaned" orphans.length ++
    (if orphans.isEmpty then []
      else ['\n'] :: "Orphaned Tasks:\n".toList :: orphans.flatMap (orphanLine now))

/-- What stands in place of the section while the registry is in use. -/
def busy : List (List Char) := ["Task Statistics: unavailable (registry busy)\n".toList]

/-- The section for a registry, which `held` says to be in use. -/
def pieces (r : Registry) (held : Bool) (now : Tick) : List (List Char) :=
  if held then busy else ofRecords r.records now

end Vigil.Task.Statistics
