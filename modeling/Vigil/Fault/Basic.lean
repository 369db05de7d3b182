import Vigil.Fault.Signal
import Vigil.Number.Digits
import Vigil.Text.Lines

/-!
# Fault — Basic

A fatal event and its description.
-/

namespace Vigil

/-- A fatal event. -/
inductive Fault where
  /-- A panic with its message, where it happened, in which thread, and the frames that led
  there. -/
  | panic (message : String) (location thread backtrace : Option String)
  /-- A fatal signal. -/
  | signal (name : String) (number : Int)
  deriving DecidableEq, Repr

namespace Fault
open Text

/-- The fault that a signal is. -/
def ofSignal (s : Signal) : Fault := .signal s.name s.number

/-- A further line about a panic, if there is something to say. -/
def detail (label : String) : Option String → List Char
  | none => []
  | some text => '\n' :: label.toList ++ text.toList

/-- The frames of a panic, each on a line of its own. -/
def frames : Option String → List Char
  | none => []
  | some text => "\n  Backtrace:".toList ++ (lines text.toList).flatMap ("\n    ".toList ++ ·)

/-- The description. -/
def text : Fault → List Char
  | .panic message location thread backtrace =>
    "Uncaught panic: ".toList ++ message.toList ++ detail "  Location: " location ++
      detail "  Thread: " thread ++ frames backtrace
  | .signal name number =>
    "Fatal signal ".toList ++ name.toList ++ " (".toList ++ Number.signed number ++ [')']

/-- The first line of the description. -/
def summary (f : Fault) : List Char := ((lines f.text).head?).getD []

end Fault
end Vigil
