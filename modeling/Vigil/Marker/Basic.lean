import Vigil.Calendar.Rfc3339
import Vigil.Json

/-!
# Marker — Basic

A marker says which session wrote it: when it started, under which process id and in which
version.
-/

namespace Vigil

/-- Evidence that a session started and has not shut down cleanly. -/
structure Marker where
  start : Instant
  pid : UInt32
  version : String
  deriving DecidableEq

namespace Marker

/-- The marker as a JSON object. -/
def toJson (m : Marker) : Json :=
  .object [
    ("session_start".toList, .string (m.start.toRfc3339 Instant.letterZone)),
    ("pid".toList, .ofNat m.pid.toNat),
    ("app_version".toList, .ofString m.version)]

end Marker
end Vigil
