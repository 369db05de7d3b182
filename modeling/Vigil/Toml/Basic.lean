/-!
# Toml — Basic

The values of a TOML document.  Of numbers with a fraction and of dates only the kind is kept,
since nothing is configured with them.
-/

namespace Vigil

/-- A value in a TOML document. -/
inductive Toml where
  | text (value : List Char)
  | integer (value : Int)
  /-- A number with a fraction or an exponent, an infinity, or no number at all. -/
  | fractional
  | truth (value : Bool)
  /-- A date, a time of day, or both. -/
  | moment
  | array (items : List Toml)
  | table (fields : List (List Char × Toml))

end Vigil
