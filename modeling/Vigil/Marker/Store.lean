import Vigil.Files.Tree
import Vigil.Marker.Text
import Vigil.Notice

/-!
# Marker — Store

The file that holds a marker.
-/

namespace Vigil.Marker

/-- The text of the marker file, if there is one.  A file that is there but cannot be read
counts as an empty one: its presence is the evidence, not its contents. -/
def read (t : Tree) (path : String) : Option (List Char) × List Notice :=
  match t.read path with
  | .ok bytes => (some (Text.decodeLossy bytes), [])
  | .error e => if e.isNotFound then (none, []) else (some [], [.markerUnreadable path e.message])

/-- Writes a marker over any file at the path, after making the directories above it. -/
def write (t : Tree) (path : String) (m : Marker) : Tree × Except Error Unit :=
  let parent := Path.parent? path
  let (t, made) := match parent with
    | some p => t.makeDirectories p
    | none => (t, .ok ())
  match made with
  | .error e => (t, .error (.io ("failed to create " ++ parent.getD "" ++ ": " ++ e.message)))
  | .ok () => match t.write path (Text.encode m.toText) with
    | .ok t => (t, .ok ())
    | .error e =>
      (t, .error (.io ("failed to write crash marker " ++ path ++ ": " ++ e.message)))

/-- Deletes the marker file; says whether there was one. -/
def remove (t : Tree) (path : String) : Tree × Except Error Bool :=
  match t.remove path with
  | .ok t => (t, .ok true)
  | .error e =>
    if e.isNotFound then (t, .ok false)
    else (t, .error (.io ("failed to remove crash marker " ++ path ++ ": " ++ e.message)))

end Vigil.Marker
