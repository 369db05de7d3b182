/-!
# Files — Path

Paths as texts: joining them, taking the parent, and their components.
-/

namespace Vigil.Path

/-- The pieces between the slashes of a path. -/
def pieces : List Char → List (List Char)
  | [] => [[]]
  | c :: s =>
    if c = '/' then [] :: pieces s
    else match pieces s with
      | [] => [[c]]
      | p :: ps => (c :: p) :: ps

/-- Whether a path starts at the root. -/
def isAbsolute (path : String) : Bool := path.toList.head? = some '/'

/-- Whether a path ends in a slash, and so has to name a directory. -/
def endsInSlash (path : String) : Bool := path.toList.getLast? = some '/'

/-- The names along a path, `.` and `..` among them. -/
def names (path : String) : List String :=
  ((pieces path.toList).filter (!·.isEmpty)).map String.ofList

/-- The path of `part` within `base`; an absolute part stands on its own. -/
def join (base part : String) : String :=
  if isAbsolute part then part
  else if base.isEmpty || endsInSlash base then base ++ part
  else base ++ "/" ++ part

/-- Whether the piece at a position counts as a component: empty ones and `.` do not, save for a
`.` in front. -/
def isComponent (position : Nat) (piece : List Char) : Bool :=
  !piece.isEmpty && (position = 0 || piece ≠ ['.'])

/-- The positions of the components among the pieces. -/
def componentPositions (ps : List (List Char)) : List Nat :=
  (List.range ps.length).filter fun i => isComponent i (ps.getD i [])

/-- Pieces with slashes between them. -/
def unpieces (ps : List (List Char)) : List Char := ['/'].intercalate ps

/-- The path without its last component; a path without components has no parent. -/
def parent? (path : String) : Option String :=
  let ps := pieces path.toList
  match (componentPositions ps).reverse with
  | [] => none
  | [_] => some (if isAbsolute path then "/" else "")
  | _ :: i :: _ => some (String.ofList (unpieces (ps.take (i + 1))))

end Vigil.Path
