import Vigil.Fault.Report
import Vigil.Files.Tree

/-!
# Fault — Capture

What is kept ready for a fault: where its report goes, and which registry the report describes.
-/

namespace Vigil.Fault

/-- What is kept ready for a fault. -/
structure Capture where
  /-- Which registry reports describe. -/
  registry : Nat
  logPath : String
  /-- The log as it was opened beforehand, so that a signal needs to open nothing. -/
  logFile : Option Nat
  /-- Whether a signal was recorded; later ones are not. -/
  signalled : Bool
  /-- The number of faults that were recorded. -/
  recorded : Nat
  deriving DecidableEq, Repr

namespace Capture

/-- Opens the log, or does without if it cannot be opened. -/
def prepare (t : Tree) (registry : Nat) (logPath : String) : Tree × Capture :=
  let (t, opened) := t.openAppend logPath
  (t, ⟨registry, logPath, opened.toOption, false, 0⟩)

/-- One more fault was recorded. -/
def count (c : Capture) : Capture := { c with recorded := c.recorded + 1 }

/-- The first signal was recorded. -/
def signal (c : Capture) : Capture := { c.count with signalled := true }

/-- How much room there is for a report while a signal is handled. -/
def signalRoom : Nat := 16384

/-- The bytes that a signal writes to the log. -/
def signalBytes (time : Instant) (fault : Fault) (statistics : List (List Char)) : Bytes :=
  (Report.writeTo (.new (List.replicate signalRoom 0)) time fault statistics).1.finish

end Capture
end Vigil.Fault
