import Vigil.Text.Printable

/-!
# Text — Quoted

A text between double quotes with everything invisible spelled out, as it stands in an error
shown for a developer.
-/

namespace Vigil.Text

/-- `n` in lower-case hexadecimal. -/
def hex (n : Nat) : List Char := Nat.toDigits 16 n

/-- How one character stands between the quotes. -/
def escape (c : Char) : List Char :=
  if c = '\x00' then ['\\', '0']
  else if c = '\t' then ['\\', 't']
  else if c = '\n' then ['\\', 'n']
  else if c = '\r' then ['\\', 'r']
  else if c = '"' then ['\\', '"']
  else if c = '\\' then ['\\', '\\']
  else if isExtending c || !isPrintable c then ['\\', 'u', '\x7b'] ++ hex c.toNat ++ ['\x7d']
  else [c]

/-- The text between double quotes, each character escaped where it has to be. -/
def quoted (s : List Char) : List Char := '"' :: s.flatMap escape ++ ['"']

end Vigil.Text
