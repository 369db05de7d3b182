/-!
# Text — Lines

Splitting a text into lines and a line at its first separator.
-/

namespace Vigil.Text

/-- The lines of a text.  A line ends at a line feed, and a carriage return right before that
line feed belongs to the ending; an empty rest after the last line feed is no line. -/
def lines : List Char → List (List Char)
  | [] => []
  | c :: rest =>
    if c = '\n' then [] :: lines rest
    else match rest, lines rest with
      | '\n' :: _, l :: ls => (if c = '\r' then l else c :: l) :: ls
      | _, [] => [[c]]
      | _, l :: ls => (c :: l) :: ls

/-- What stands before and after the first `sep`, if there is one. -/
def splitOnce? (sep : Char) : List Char → Option (List Char × List Char)
  | [] => none
  | c :: rest =>
    if c = sep then some ([], rest)
    else (splitOnce? sep rest).map fun (before, after) => (c :: before, after)

end Vigil.Text
