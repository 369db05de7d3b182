import Vigil.Toml.Value

/-!
# Toml — Document

Documents.  `statements` takes a text apart into headers and assignments,
`Document.ofStatements?` builds the table they describe, and `ofText?` is both.
-/

namespace Vigil.Toml

/-- What one line of a document, or several for a value of several lines, says. -/
inductive Statement where
  /-- Assignments that follow are to this table. -/
  | header (path : List (List Char))
  /-- Assignments that follow are to a new table at the end of this array. -/
  | arrayHeader (path : List (List Char))
  | assign (path : List (List Char)) (v : Toml)

namespace Reader

/-- Takes a header with its line. -/
def header : Reader Statement := do
  let isArray := (← option (word ['[', '['])).isSome
  if isArray then
    let path ← key
    word [']', ']']
    restOfLine
    pure (.arrayHeader path)
  else
    char '['
    let path ← key
    char ']'
    restOfLine
    pure (.header path)

/-- Takes an assignment with its line or lines. -/
def assignmentLine : Reader Statement := do
  let (path, v) ← assignment (value (maxDepth - 1))
  restOfLine
  pure (.assign path v)

/-- Takes a line, which says something or nothing. -/
def statement : Reader (Option Statement) := do
  space
  match ← peek with
  | [] => failure
  | c :: _ =>
    if c = '[' then some <$> header
    else if c = '#' || c = '\n' || c = '\r' then do restOfLine; pure none
    else some <$> assignmentLine

/-- Takes a whole text. -/
def statements : Reader (List Statement) := do
  let _ ← option (char '\uFEFF')
  let found ← all statement
  space
  if (← peek).isEmpty then pure (found.filterMap id) else failure

end Reader

/-- A document of which some statements are read. -/
structure Document where
  /-- The tables that are complete. -/
  root : Draft := .empty
  /-- The table that assignments are to. -/
  current : Draft := .empty
  /-- Where that table goes; `none` for the root itself. -/
  place : Option (List (List Char) × List Char) := none
  /-- Whether it goes to the end of an array. -/
  isArray : Bool := false

namespace Document

/-- Puts the last table of an array in its place. -/
def push (key : List Char) (t : Draft) (d : Draft) : Option Draft :=
  match (d.get? key).getD (.tables []) with
  | .tables items => some (d.set key (.tables (t :: items)))
  | _ => none

/-- Puts the current table in its place. -/
def close (doc : Document) : Option Draft :=
  match doc.place with
  | none => some doc.current
  | some (parents, key) =>
    Draft.descend .passed
      (fun _ d => if doc.isArray then push key doc.current d
        else some (d.set key (.table .header doc.current)))
      .header parents doc.root

/-- The key of a path, and the path to its table. -/
def split (path : List (List Char)) : Option (List (List Char) × List Char) :=
  path.getLast?.map fun key => (path.dropLast, key)

/-- What the table under `key` already holds when a header names it: only a table that was
merely passed may still be named. -/
def held (key : List Char) (d : Draft) : Option Draft :=
  match d.get? key with
  | none => some .empty
  | some (.table .passed fields) => some fields
  | some _ => none

/-- The table at the end of a path, the tables on the way being made. -/
def lookIn (root : Draft) (path : List (List Char)) : Option Draft :=
  match path with
  | [] => some root
  | key :: rest =>
    match (root.get? key).getD (.table .passed []) with
    | .value _ => none
    | .tables [] => none
    | .tables (last :: _) => lookIn last rest
    | .table _ fields => lookIn fields rest

/-- Makes the table that a header names the current one. -/
def openTable (doc : Document) (path : List (List Char)) : Option Document := do
  let root ← doc.close
  let (parents, key) ← split path
  let current ← held key (← lookIn root parents)
  some { root, current, place := some (parents, key), isArray := false }

/-- Makes a new table of an array the current one. -/
def openArray (doc : Document) (path : List (List Char)) : Option Document := do
  let root ← doc.close
  let (parents, key) ← split path
  let _ ← push key .empty (← lookIn root parents)
  some { root, current := .empty, place := some (parents, key), isArray := true }

/-- Reads a statement. -/
def read (doc : Document) : Statement → Option Document
  | .header path => doc.openTable path
  | .arrayHeader path => doc.openArray path
  | .assign path v => do some { doc with current := ← doc.current.assign path v }

/-- The table that statements describe. -/
def ofStatements? (s : List Statement) : Option Draft := do
  (← s.foldlM read {}).close

end Document

/-- The fields of the document that a text is. -/
def ofText? (s : List Char) : Option (List (List Char × Toml)) := do
  let (found, _) ← StateT.run Reader.statements s
  some (Item.fieldsToToml (← Document.ofStatements? found))

end Vigil.Toml
