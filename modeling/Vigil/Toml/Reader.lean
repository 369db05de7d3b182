/-!
# Toml — Reader

Readers of text: each takes something from the front or fails.  Here are the pieces that every
part of a document is made of: single characters, blanks, comments and ends of lines.
-/

namespace Vigil.Toml

/-- Takes something from the front of a text, or fails. -/
abbrev Reader := StateT (List Char) Option

namespace Reader

/-- Looks at the text without taking anything. -/
def peek : Reader (List Char) := get

/-- Takes a character that passes a test. -/
def one (test : Char → Bool) : Reader Char := do
  match ← get with
  | [] => failure
  | c :: rest => if test c then set rest; pure c else failure

/-- Takes the character `c`. -/
def char (c : Char) : Reader Unit := do let _ ← one (· == c)

/-- Takes the characters of `word`. -/
def word : List Char → Reader Unit
  | [] => pure ()
  | c :: cs => do char c; word cs

/-- Takes characters as long as they pass a test. -/
def takeWhile (test : Char → Bool) : Reader (List Char) := do
  let s ← get
  set (s.dropWhile test)
  pure (s.takeWhile test)

/-- Takes at least one character, as long as they pass a test. -/
def takeWhile1 (test : Char → Bool) : Reader (List Char) := do
  let s ← takeWhile test
  if s.isEmpty then failure else pure s

/-- Takes exactly `n` characters, which pass a test. -/
def exactly (n : Nat) (test : Char → Bool) : Reader (List Char) := do
  let s ← get
  let front := s.take n
  if front.length = n && front.all test then set (s.drop n); pure front else failure

/-- Takes what `r` takes if it can. -/
def option {α : Type} (r : Reader α) : Reader (Option α) := (some <$> r) <|> pure none

/-- Takes as many times as `r` can, at most `fuel` times. -/
def many {α : Type} (r : Reader α) : Nat → Reader (List α)
  | 0 => pure []
  | fuel + 1 => (do let a ← r; let rest ← many r fuel; pure (a :: rest)) <|> pure []

/-- Takes as many times as `r` can, which takes something each time. -/
def all {α : Type} (r : Reader α) : Reader (List α) :=
  (do let a ← r; let rest ← many r (← get).length; pure (a :: rest)) <|> pure []

/-- Takes what `r` takes once or more, with `separator` between. -/
def separated {α : Type} (separator : Reader Unit) (r : Reader α) : Reader (List α) := do
  let first ← r
  let rest ← all (do separator; r)
  pure (first :: rest)

/-- A blank within a line. -/
def isSpace (c : Char) : Bool := c = ' ' || c = '\t'

/-- A character that a comment or a string may show: no control character but the tab. -/
def isVisible (c : Char) : Bool := c = '\t' || (0x20 ≤ c.toNat && c.toNat ≠ 0x7F)

/-- Takes the blanks within a line. -/
def space : Reader Unit := do let _ ← takeWhile isSpace

/-- Takes a line feed, perhaps after a carriage return. -/
def newline : Reader Unit := char '\n' <|> word ['\r', '\n']

/-- Takes a comment up to the end of its line. -/
def comment : Reader Unit := do char '#'; let _ ← takeWhile isVisible

/-- Takes blanks, ends of lines and comments. -/
def filler : Reader Unit := do
  let _ ← all ((do let _ ← takeWhile1 isSpace) <|> newline <|> comment)

/-- Takes the rest of a line that says nothing more, with its end. -/
def restOfLine : Reader Unit := do
  space
  let _ ← option comment
  if (← get).isEmpty then pure () else newline

end Reader
end Vigil.Toml
