import Vigil.Error
import Vigil.Files.Tree

/-!
# Fault — Log

The file that reports are appended to.
-/

namespace Vigil.Fault.Log

/-- The text of the log; one that is not there is empty. -/
def read (t : Tree) (path : String) : Except Error (List Char) :=
  match t.readText path with
  | .ok text => .ok text
  | .error e =>
    if e.isNotFound then .ok []
    else .error (.io ("failed to read crash log " ++ path ++ ": " ++ e.message))

/-- Appends to the log, which is made with its directories where it is missing; says whether it
could. -/
def append (t : Tree) (path : String) (bytes : Bytes) : Tree × Bool :=
  match t.openAppend path with
  | (t, .ok id) => (t.appendTo id bytes, true)
  | (t, .error _) => (t, false)

end Vigil.Fault.Log
