import Vigil.Text.Quoted

/-!
# Json

JSON documents and their two printed forms: `compact` on one line and `pretty` with two spaces
of indentation per level.
-/

namespace Vigil

/-- A JSON document; a number is given by its text and an object by its fields in order. -/
inductive Json where
  | null
  | bool (value : Bool)
  | number (text : List Char)
  | string (text : List Char)
  | array (items : List Json)
  | object (fields : List (List Char × Json))

namespace Json

/-- How one character stands in a JSON string: quotes, backslashes and control characters are
escaped. -/
def escape (c : Char) : List Char :=
  if c = '"' then ['\\', '"']
  else if c = '\\' then ['\\', '\\']
  else if c = '\n' then ['\\', 'n']
  else if c = '\r' then ['\\', 'r']
  else if c = '\t' then ['\\', 't']
  else if c = '\x08' then ['\\', 'b']
  else if c = '\x0c' then ['\\', 'f']
  else if c.toNat < 16 then ['\\', 'u', '0', '0', '0'] ++ Text.hex c.toNat
  else if c.toNat < 32 then ['\\', 'u', '0', '0'] ++ Text.hex c.toNat
  else [c]

/-- A JSON string. -/
def quote (s : List Char) : List Char := '"' :: s.flatMap escape ++ ['"']

/-- A number that is an integer. -/
def ofNat (n : Nat) : Json := .number (Nat.toDigits 10 n)

/-- A string. -/
def ofString (s : String) : Json := .string s.toList

/-- The words for truth values. -/
def boolText (b : Bool) : List Char := if b then "true".toList else "false".toList

mutual

/-- The document on one line without spaces. -/
def compact : Json → List Char
  | .null => "null".toList
  | .bool b => boolText b
  | .number s => s
  | .string s => quote s
  | .array items => '[' :: compactItems items ++ [']']
  | .object fields => '\x7b' :: compactFields fields ++ ['\x7d']

/-- Items with commas between them. -/
def compactItems : List Json → List Char
  | [] => []
  | [v] => compact v
  | v :: rest => compact v ++ ',' :: compactItems rest

/-- Fields with commas between them. -/
def compactFields : List (List Char × Json) → List Char
  | [] => []
  | [(k, v)] => quote k ++ ':' :: compact v
  | (k, v) :: rest => quote k ++ ':' :: compact v ++ ',' :: compactFields rest

end

/-- A new line at a level of nesting. -/
def newline (level : Nat) : List Char := '\n' :: List.replicate (2 * level) ' '

mutual

/-- The document over several lines, its own line being at `level`; what is empty stays on one
line. -/
def pretty (level : Nat) : Json → List Char
  | .null => "null".toList
  | .bool b => boolText b
  | .number s => s
  | .string s => quote s
  | .array [] => ['[', ']']
  | .array items => '[' :: prettyItems (level + 1) items ++ newline level ++ [']']
  | .object [] => ['\x7b', '\x7d']
  | .object fields => '\x7b' :: prettyFields (level + 1) fields ++ newline level ++ ['\x7d']

/-- Items, each on a line of its own. -/
def prettyItems (level : Nat) : List Json → List Char
  | [] => []
  | [v] => newline level ++ pretty level v
  | v :: rest => newline level ++ pretty level v ++ ',' :: prettyItems level rest

/-- Fields, each on a line of its own. -/
def prettyFields (level : Nat) : List (List Char × Json) → List Char
  | [] => []
  | [(k, v)] => newline level ++ quote k ++ ':' :: ' ' :: pretty level v
  | (k, v) :: rest =>
    newline level ++ quote k ++ ':' :: ' ' :: pretty level v ++ ',' :: prettyFields level rest

end

end Json
end Vigil
