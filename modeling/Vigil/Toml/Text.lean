import Vigil.Number.Digits
import Vigil.Toml.Reader

/-!
# Toml — Text

Strings and keys.  A string stands between double quotes, where a backslash starts an escape, or
between single quotes, where nothing does; tripled quotes let it run over several lines.
-/

namespace Vigil.Toml.Reader

/-- The value of a hexadecimal digit. -/
def hexValue? (c : Char) : Option Nat :=
  if '0' ≤ c && c ≤ '9' then some (c.toNat - 48)
  else if 'a' ≤ c && c ≤ 'f' then some (c.toNat - 87)
  else if 'A' ≤ c && c ≤ 'F' then some (c.toNat - 55)
  else none

/-- The value of a run of hexadecimal digits. -/
def ofHex (s : List Char) : Nat := s.foldl (fun n c => n * 16 + (hexValue? c).getD 0) 0

/-- Takes `digits` hexadecimal digits that give the code point of a character. -/
def codePoint (digits : Nat) : Reader Char := do
  let n := ofHex (← exactly digits fun c => (hexValue? c).isSome)
  if n.isValidChar then pure (Char.ofNat n) else failure

/-- Takes an escape. -/
def escape : Reader Char := do
  char '\\'
  let c ← one fun _ => true
  if c = 'b' then pure '\x08'
  else if c = 'f' then pure '\x0c'
  else if c = 'n' then pure '\n'
  else if c = 'r' then pure '\r'
  else if c = 't' then pure '\t'
  else if c = '"' || c = '\\' then pure c
  else if c = 'u' then codePoint 4
  else if c = 'U' then codePoint 8
  else failure

/-- Takes an escape as a piece of a string. -/
def escaped : Reader (List Char) := do pure [← escape]

/-- A character that stands for itself in a string with escapes. -/
def isPlain (c : Char) : Bool := isVisible c && c ≠ '"' && c ≠ '\\'

/-- A character that stands for itself in a string without escapes. -/
def isLiteral (c : Char) : Bool := isVisible c && c ≠ '\''

/-- Takes a string with escapes on one line. -/
def basicLine : Reader (List Char) := do
  char '"'
  let s ← all (takeWhile1 isPlain <|> escaped)
  char '"'
  pure s.flatten

/-- Takes a string without escapes on one line. -/
def literalLine : Reader (List Char) := do
  char '\''
  let s ← takeWhile isLiteral
  char '\''
  pure s

/-- Takes a backslash at the end of a line with the blanks and ends of lines that follow: it
stands for nothing. -/
def joinedLines : Reader (List Char) := do
  char '\\'
  space
  newline
  let _ ← all ((do let _ ← one isSpace) <|> newline)
  pure []

/-- Takes an end of line within a string; it is a line feed there. -/
def innerNewline : Reader (List Char) := do newline; pure ['\n']

/-- Takes the quotes at one place in a string that ends in three of them: up to two that
something follows stand for themselves. -/
def innerQuotes (quote : Char) : Reader (List Char) := do
  let quotes ← takeWhile1 (· == quote)
  if quotes.length < 3 then pure quotes else failure

/-- Takes the quotes that end a string of several lines: the last three end it and up to two
before them stand for themselves. -/
def finalQuotes (quote : Char) : Reader (List Char) := do
  let quotes ← takeWhile1 (· == quote)
  if 3 ≤ quotes.length && quotes.length ≤ 5 then pure (quotes.drop 3) else failure

/-- Takes a string of several lines whose contents are made of `piece`; a line end right at its
start does not count. -/
def severalLines (quote : Char) (piece : Reader (List Char)) : Reader (List Char) := do
  word [quote, quote, quote]
  let _ ← option newline
  let s ← all (piece <|> innerNewline <|> innerQuotes quote)
  let extra ← finalQuotes quote
  pure (s.flatten ++ extra)

/-- Takes a string of several lines with escapes. -/
def basicLines : Reader (List Char) :=
  severalLines '"' (takeWhile1 isPlain <|> joinedLines <|> escaped)

/-- Takes a string of several lines without escapes. -/
def literalLines : Reader (List Char) := severalLines '\'' (takeWhile1 isLiteral)

/-- Takes a string. -/
def text : Reader (List Char) := basicLines <|> basicLine <|> literalLines <|> literalLine

/-- A character of a key that needs no quotes. -/
def isBare (c : Char) : Bool :=
  Number.isDigit c || ('a' ≤ c && c ≤ 'z') || ('A' ≤ c && c ≤ 'Z') || c = '_' || c = '-'

/-- Takes one part of a key. -/
def simpleKey : Reader (List Char) := basicLine <|> literalLine <|> takeWhile1 isBare

/-- How deep values and keys may go. -/
def maxDepth : Nat := 80

/-- Takes a key: one part or several with points between them, and blanks around each. -/
def key : Reader (List (List Char)) := do
  let parts ← separated (char '.') (do space; let part ← simpleKey; space; pure part)
  if parts.length < maxDepth then pure parts else failure

end Vigil.Toml.Reader
