import Vigil.Toml.Basic

/-!
# Toml — Draft

A table while its document is read.  What a key may still be given depends on how it came to
hold a table: through a header of its own, as a step on the way to another header, or through a
dotted key.
-/

namespace Vigil.Toml

/-- How a key came to hold a table. -/
inductive Origin where
  /-- A header names it. -/
  | header
  /-- It is on the way to a table that a header names. -/
  | passed
  /-- A dotted key leads through it. -/
  | dotted
  deriving DecidableEq

/-- What a key holds. -/
inductive Item where
  | value (v : Toml)
  | table (origin : Origin) (fields : List (List Char × Item))
  /-- The tables of an array of tables, the last one first. -/
  | tables (items : List (List (List Char × Item)))

/-- The fields of a table. -/
abbrev Draft := List (List Char × Item)

namespace Item

mutual

/-- What a key holds, as a value. -/
def toToml : Item → Toml
  | .value v => v
  | .table _ fields => .table (fieldsToToml fields)
  | .tables items => .array (tablesToToml items).reverse

/-- Fields as values. -/
def fieldsToToml : List (List Char × Item) → List (List Char × Toml)
  | [] => []
  | (k, i) :: rest => (k, i.toToml) :: fieldsToToml rest

/-- Tables as values. -/
def tablesToToml : List (List (List Char × Item)) → List Toml
  | [] => []
  | t :: rest => .table (fieldsToToml t) :: tablesToToml rest

end

end Item

namespace Draft

/-- A table without fields. -/
def empty : Draft := []

/-- What a key holds. -/
def get? (d : Draft) (key : List Char) : Option Item := d.lookup key

/-- Gives `item` to `key`, over what it holds. -/
def set (d : Draft) (key : List Char) (item : Item) : Draft :=
  match d with
  | [] => [(key, item)]
  | (k, i) :: rest => if k = key then (k, item) :: rest else (k, i) :: set rest key item

/-- Takes the field of `key` away. -/
def erase (d : Draft) (key : List Char) : Draft := d.filter (·.1 != key)

/-- The table as a value. -/
def toToml (d : Draft) : Toml := .table (Item.fieldsToToml d)

/-- Changes the table at the end of a path; tables that are missing on the way are made with
`origin`.  A dotted key does not lead into a table that a header names, and of an array of
tables the last one is meant.  `change` is told where the table came from. -/
def descend (origin : Origin) (change : Origin → Draft → Option Draft) :
    Origin → List (List Char) → Draft → Option Draft
  | here, [], d => change here d
  | _, key :: rest, d =>
    match (d.get? key).getD (.table origin []) with
    | .value _ => none
    | .tables [] => none
    | .tables (last :: before) => do
      some (d.set key (.tables ((← descend origin change .header rest last) :: before)))
    | .table from' fields =>
      if origin = .dotted && from' = .header then none
      else do some (d.set key (.table from' (← descend origin change from' rest fields)))

/-- Gives a new key its value. -/
def add (key : List Char) (v : Toml) (d : Draft) : Option Draft :=
  match d.get? key with
  | some _ => none
  | none => some (d ++ [(key, .value v)])

/-- Gives the last of the keys its value in the table that the others lead to, which only dotted
keys may have made. -/
def assign (d : Draft) (path : List (List Char)) (v : Toml) : Option Draft :=
  match path.getLast? with
  | none => none
  | some key =>
    match path.dropLast with
    | [] => d.add key v
    | front =>
      descend .dotted (fun origin d => if origin = .dotted then add key v d else none) .header front d

end Draft
end Vigil.Toml
