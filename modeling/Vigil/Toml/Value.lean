import Vigil.Toml.Draft
import Vigil.Toml.Number

/-!
# Toml — Value

Whole values.  Arrays may run over several lines and end in a comma; inline tables do neither.
-/

namespace Vigil.Toml.Reader

/-- Takes a truth value. -/
def truth : Reader Toml :=
  (do word "true".toList; pure (.truth true)) <|> (do word "false".toList; pure (.truth false))

/-- Takes a value that holds no others. -/
def scalar : Reader Toml :=
  (do pure (.text (← text))) <|> truth <|> moment <|> fractional <|> special <|> integer

/-- Takes the items of an array whose opening bracket is taken, and its closing bracket. -/
def arrayRest (value : Reader Toml) : Reader Toml := do
  let items ← option (separated (char ',') (do filler; let v ← value; filler; pure v))
  let _ ← option (if items.isSome then char ',' else failure)
  filler
  char ']'
  pure (.array (items.getD []))

/-- Takes a key and its value. -/
def assignment (value : Reader Toml) : Reader (List (List Char) × Toml) := do
  let path ← key
  char '='
  space
  pure (path, ← value)

/-- Takes the fields of an inline table whose opening brace is taken, and its closing brace. -/
def tableRest (value : Reader Toml) : Reader Toml := do
  let fields ← option (separated (char ',') (do let f ← assignment value; space; pure f))
  space
  char '\x7d'
  match (fields.getD []).foldlM (fun d (path, v) => Draft.assign d path v) Draft.empty with
  | some d => pure d.toToml
  | none => failure

/-- Takes a value that goes at most `depth` levels deep. -/
def value : Nat → Reader Toml
  | 0 => scalar
  | depth + 1 => do
    match ← peek with
    | '[' :: _ => do char '['; arrayRest (value depth)
    | '\x7b' :: _ => do char '\x7b'; tableRest (value depth)
    | _ => scalar

end Vigil.Toml.Reader
