import Vigil.Config.Basic
import Vigil.Fault.Log
import Vigil.Fault.Report
import Vigil.Marker.Store

/-!
# Status

What earlier sessions left on disk: whether there is a marker, and the reports in the crash log.
-/

namespace Vigil

/-- The marker and the crash log as they are found. -/
structure Status where
  /-- Whether there is a marker: a session runs, or the last one crashed. -/
  markerPresent : Bool
  /-- The marker, if it can be read. -/
  marker : Option Marker
  logPath : String
  /-- The number of reports in the log. -/
  reports : Nat
  /-- The last report in the log. -/
  latest : Option (List Char)
  deriving DecidableEq

namespace Status
open Number

/-- Looks at the files that a configuration names. -/
def collect (t : Tree) (c : Config) : Except Error Status × List Notice :=
  let (raw, notices) := Marker.read t c.markerPath
  (do
    let blocks := Fault.Report.split (← Fault.Log.read t c.logPath)
    .ok {
      markerPresent := raw.isSome
      marker := raw.bind Marker.parse?
      logPath := c.logPath
      reports := blocks.length
      latest := blocks.getLast? }, notices)

/-- The status as a JSON object. -/
def toJson (s : Status) : Json :=
  .object [
    ("marker_present".toList, .bool s.markerPresent),
    ("marker".toList, s.marker.elim .null Marker.toJson),
    ("crash_log".toList, .ofString s.logPath),
    ("crash_reports".toList, .ofNat s.reports),
    ("latest_report".toList, s.latest.elim .null .string)]

/-- The line about the marker. -/
def markerLine (s : Status) : List Char :=
  match s.marker with
  | some m =>
    "Session marker: present (pid ".toList ++ decimal m.pid.toNat ++ ", version ".toList ++
      m.version.toList ++ ", started ".toList ++ m.start.toRfc3339 Instant.numericZone ++
      ")\n".toList
  | none =>
    if s.markerPresent then "Session marker: present (unreadable)\n".toList
    else "Session marker: absent\n".toList

/-- The status in words. -/
def toText (s : Status) : List Char :=
  s.markerLine ++ "Crash log: ".toList ++ s.logPath.toList ++ " (".toList ++ decimal s.reports ++
    " report(s))\n".toList ++
    s.latest.elim [] fun block => "\nLatest report:\n".toList ++ block ++ ['\n']

end Status
end Vigil
